import PullRequestBot.Number.Digit
import PullRequestBot.Text.Split

set_option autoImplicit false

/-! # Internet addresses of 128 bits

An address is written as eight numbers of 16 bits to base 16, with colons between them. Two colons
stand for a run of zeros. The last two numbers may be read from four decimal numbers with points
between them. -/

namespace PullRequestBot

/-- An address of 128 bits: eight numbers of 16 bits. -/
structure Ipv6 where
  pieces : List UInt16
  length_eq : pieces.length = 8
deriving DecidableEq, Repr

namespace Ipv6

/-! ## Written form -/

/-- The zeros at the front of a list. -/
def zerosAtFront (pieces : List UInt16) : Nat :=
  (pieces.takeWhile (· == 0)).length

/-- Where the longest run of zeros starts, and its length; of several the first. `index` counts the
    pieces before the list. -/
def longestZeros (index : Nat) : List UInt16 → Nat × Nat
  | [] => (index, 0)
  | piece :: rest =>
    let here := zerosAtFront (piece :: rest)
    let (start, length) := longestZeros (index + 1) rest
    if length ≤ here then (index, here) else (start, length)

/-- Numbers with colons between them. -/
def row (pieces : List UInt16) : String :=
  ":".intercalate (pieces.map fun piece => String.ofList (Nat.toDigits 16 piece.toNat))

/-- The written form of an address. Two zeros in a row are left out, the longest run of them if there
    are several. -/
def text (address : Ipv6) : String :=
  let (start, length) := longestZeros 0 address.pieces
  if length < 2 then row address.pieces
  else s!"{row (address.pieces.take start)}::{row (address.pieces.drop (start + length))}"

/-! ## Reading -/

/-- A number of one to four digits. -/
def piece? (cs : List Char) : Option UInt16 :=
  if 4 < cs.length then none else (Digit.number? 16 cs).map UInt16.ofNat

/-- A decimal number of 8 bits without a zero in front of it. -/
def byte? (cs : List Char) : Option Nat := do
  if cs.head? = some '0' ∧ cs.length ≠ 1 then none
  let value ← Digit.number? 10 cs
  if value < 256 then some value else none

/-- The two pieces of four decimal numbers. -/
def fourBytes? (cs : List Char) : Option (List UInt16) := do
  match ← (Text.pieces '.' cs).mapM byte? with
  | [a, b, c, d] => some [UInt16.ofNat (a * 256 + b), UInt16.ofNat (c * 256 + d)]
  | _ => none

/-- The pieces between colons; the last may hold decimal numbers, if nothing follows it. -/
def side? (isLast : Bool) : List (List Char) → Option (List UInt16)
  | [] => some []
  | [cs] => if isLast && cs.contains '.' then fourBytes? cs else (piece? cs).map ([·])
  | cs :: rest => do
    let piece ← piece? cs
    let more ← side? isLast rest
    some (piece :: more)

/-- The pieces on one side of a gap; there may be none. -/
def besideGap? (isLast : Bool) (cs : List Char) : Option (List UInt16) :=
  if cs.isEmpty then some [] else side? isLast (Text.pieces ':' cs)

/-- What stands before and after the first two colons in a row. -/
def splitGap : List Char → Option (List Char × List Char)
  | ':' :: ':' :: rest => some ([], rest)
  | [] => none
  | c :: rest => (splitGap rest).map fun (front, back) => (c :: front, back)

/-- The address with exactly the given pieces. -/
def ofPieces? (pieces : List UInt16) : Option Ipv6 :=
  if h : pieces.length = 8 then some ⟨pieces, h⟩ else none

/-- Reads an address; a gap stands for at least one zero. -/
def read? (cs : List Char) : Option Ipv6 :=
  match splitGap cs with
  | none => (side? true (Text.pieces ':' cs)).bind ofPieces?
  | some (front, back) => do
    let before ← besideGap? false front
    let after ← besideGap? true back
    let missing := 8 - (before.length + after.length)
    if missing = 0 then none
    ofPieces? (before ++ List.replicate missing 0 ++ after)

end Ipv6

end PullRequestBot
