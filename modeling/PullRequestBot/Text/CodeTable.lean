import PullRequestBot.Number.Digit
import PullRequestBot.Text.Split

set_option autoImplicit false

/-! # Tables of characters

What is known of single characters stands in tables, whose lines hold entries with blanks between
them. An entry starts with the characters it is about, their numbers to base 16: one number, the
first and the last of a range, or a range with the distance between its members behind a slash
(`100-12E/2`). In a table of images an equals sign and the images follow: one image a character,
commas between images and points between the characters of an image (`132=133,133.307`); one image
of one character for a whole range moves every member by the same distance (`41-5A=61`). -/

namespace PullRequestBot.Text

/-! ## Ranges -/

/-- The characters from `first` to `last` whose distance from the first is a multiple of `step`. -/
structure CodeRange where
  first : Nat
  last : Nat
  step : Nat := 1
deriving DecidableEq, Repr

namespace CodeRange

/-- Whether a character is a member. -/
def contains (range : CodeRange) (n : Nat) : Bool :=
  range.first ≤ n && n ≤ range.last && (n - range.first) % range.step == 0

/-- A number of a table. -/
def readCode (cs : List Char) : Nat :=
  (Digit.number? 16 cs).getD 0

/-- Reads the characters of an entry. -/
def read (cs : List Char) : CodeRange :=
  match cut '-' cs with
  | none => ⟨readCode cs, readCode cs, 1⟩
  | some (first, rest) =>
    match cut '/' rest with
    | none => ⟨readCode first, readCode rest, 1⟩
    | some (last, step) => ⟨readCode first, readCode last, readCode step⟩

end CodeRange

/-- The entries of a table. -/
def entries (lines : List String) : List (List Char) :=
  (lines.flatMap fun line => pieces ' ' line.toList).filter fun entry => !entry.isEmpty

/-- A set of characters. -/
abbrev CodeSet := List CodeRange

namespace CodeSet

/-- Reads a table without images. -/
def ofLines (lines : List String) : CodeSet :=
  (entries lines).map CodeRange.read

/-- Whether a character is in the set. -/
def has (set : CodeSet) (c : Char) : Bool :=
  set.any (·.contains c.toNat)

end CodeSet

/-! ## Images -/

/-- Characters with their images. -/
structure CodeRow where
  range : CodeRange
  images : List (List Nat)
deriving DecidableEq, Repr

namespace CodeRow

/-- Reads an entry; a single number in front stands for as many characters as there are images. -/
def read (cs : List Char) : CodeRow :=
  let (front, back) := (cut '=' cs).getD (cs, [])
  let range := CodeRange.read front
  let images := (pieces ',' back).map fun image =>
    if image.isEmpty then [] else (pieces '.' image).map CodeRange.readCode
  if front.contains '-' then ⟨range, images⟩
  else ⟨⟨range.first, range.first + (images.length - 1), 1⟩, images⟩

/-- The image of a character, if the row is about it. -/
def image? (row : CodeRow) (n : Nat) : Option (List Nat) :=
  if row.range.contains n then
    match row.images with
    | [[start]] => some [start + (n - row.range.first)]
    | images => some (images.getD (n - row.range.first) [])
  else none

/-- The character with the given image, in a row that lists every image. -/
def preimage? (row : CodeRow) (image : List Nat) : Option Nat :=
  (row.images.findIdx? (· == image)).map (row.range.first + ·)

end CodeRow

/-- Characters with their images. -/
abbrev CodeMap := List CodeRow

namespace CodeMap

/-- Reads a table of images. -/
def ofLines (lines : List String) : CodeMap :=
  (entries lines).map CodeRow.read

/-- The image of a character, if it has one. -/
def image? (map : CodeMap) (c : Char) : Option (List Char) :=
  (map.findSome? (·.image? c.toNat)).map fun codes => codes.map Char.ofNat

/-- The character with the given image, in a table that lists every image. -/
def preimage? (map : CodeMap) (image : List Char) : Option Char :=
  (map.findSome? (·.preimage? (image.map Char.toNat))).map Char.ofNat

end CodeMap

end PullRequestBot.Text
