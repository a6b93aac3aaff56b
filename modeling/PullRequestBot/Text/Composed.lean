import PullRequestBot.Text.CombiningClass
import PullRequestBot.Text.CompositeTable

set_option autoImplicit false

/-! # Composed texts

One letter with its marks can often be written in several ways that mean the same. `compose` gives
the way that takes the fewest characters: everything is taken apart, the marks of each letter are
sorted by their classes, and then each letter takes up the marks that have a character together with
it. -/

namespace PullRequestBot.Text

/-! ## Korean syllables

A syllable is a leading consonant, a vowel and perhaps a trailing consonant. The syllables are
numbered by these three. -/

/-- The first leading consonant. -/
def firstLead : Nat := 0x1100

/-- The first vowel. -/
def firstVowel : Nat := 0x1161

/-- The number before the first trailing consonant. -/
def noTrail : Nat := 0x11A7

/-- The first syllable. -/
def firstSyllable : Nat := 0xAC00

/-- How many leading consonants there are. -/
def leadCount : Nat := 19

/-- How many vowels there are. -/
def vowelCount : Nat := 21

/-- How many ways there are to end a syllable. -/
def trailCount : Nat := 28

/-- The parts of a syllable. -/
def syllableParts? (c : Char) : Option (List Char) :=
  let index := c.toNat - firstSyllable
  if firstSyllable ≤ c.toNat ∧ index < leadCount * vowelCount * trailCount then
    let lead := Char.ofNat (firstLead + index / (vowelCount * trailCount))
    let vowel := Char.ofNat (firstVowel + index / trailCount % vowelCount)
    let trail := index % trailCount
    some (lead :: vowel :: if trail = 0 then [] else [Char.ofNat (noTrail + trail)])
  else none

/-- The syllable of a consonant and a vowel, or of a syllable without an end and a consonant. -/
def joinSyllable? (a b : Char) : Option Char :=
  let lead := a.toNat - firstLead
  let vowel := b.toNat - firstVowel
  let trail := b.toNat - noTrail
  let index := a.toNat - firstSyllable
  if firstLead ≤ a.toNat ∧ lead < leadCount ∧ firstVowel ≤ b.toNat ∧ vowel < vowelCount then
    some (Char.ofNat (firstSyllable + (lead * vowelCount + vowel) * trailCount))
  else if firstSyllable ≤ a.toNat ∧ index < leadCount * vowelCount * trailCount ∧
      index % trailCount = 0 ∧ noTrail < b.toNat ∧ trail < trailCount then
    some (Char.ofNat (a.toNat + trail))
  else none

/-! ## Taking apart -/

/-- The longest row of characters that a character means. -/
def decomposeChar (c : Char) : List Char :=
  if c.toNat < 0xC0 then [c]
  else (((syllableParts? c).or (composites.image? c)).or (variants.image? c)).getD [c]

/-- Puts a character in front of sorted marks, behind the marks of lower classes. -/
def settle (c : Char) : List Char → List Char
  | [] => [c]
  | d :: rest =>
    if combiningClass d ≠ 0 ∧ combiningClass d < combiningClass c then d :: settle c rest
    else c :: d :: rest

/-- Sorts the marks behind each letter by their classes; marks of one class stay in order. -/
def sortMarks : List Char → List Char
  | [] => []
  | c :: rest => settle c (sortMarks rest)

/-- A text with every character taken apart. -/
def decompose (cs : List Char) : List Char :=
  sortMarks (cs.flatMap decomposeChar)

/-! ## Putting together -/

/-- The character that means the given two; the second is never a letter of the Latin script. -/
def composite? (a b : Char) : Option Char :=
  if b.toNat < 0x300 then none
  else (joinSyllable? a b).or (composites.preimage? (decomposeChar a ++ [b]))

/-- Whether nothing between a letter and a mark keeps them apart; `between` holds what stands there,
    latest first. -/
def meets (between : List Char) (mark : Char) : Bool :=
  match between with
  | [] => true
  | d :: _ => combiningClass d ≠ 0 && combiningClass d < combiningClass mark

/-- Puts a text together behind a letter and the marks it could not take up, latest first. -/
def composeFrom (letter : Char) (between : List Char) : List Char → List Char
  | [] => letter :: between.reverse
  | c :: rest =>
    match if meets between c then composite? letter c else none with
    | some joined => composeFrom joined between rest
    | none =>
      if combiningClass c = 0 then letter :: between.reverse ++ composeFrom c [] rest
      else composeFrom letter (c :: between) rest

/-- The way to write a text that takes the fewest characters; marks that stand in front of every
    letter stay as they are. -/
def compose (cs : List Char) : List Char :=
  let parts := decompose cs
  let marks := parts.takeWhile fun c => combiningClass c ≠ 0
  match parts.drop marks.length with
  | [] => marks
  | letter :: rest => marks ++ composeFrom letter [] rest

/-- Whether a text is written in the way of `compose`. -/
def isComposed (cs : List Char) : Bool :=
  compose cs == cs

end PullRequestBot.Text
