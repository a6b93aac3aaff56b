import PullRequestBot.Number.Digit
import PullRequestBot.Number.Word
import PullRequestBot.Text.Split

set_option autoImplicit false

/-! # Internet addresses of 32 bits

An address is written as four numbers with points between them, one a byte. When it is read there may
be fewer numbers, the last of which fills the rest, and a number may be to base 8 behind a zero, or
to base 16 behind `0x`. -/

namespace PullRequestBot

/-- An address of 32 bits. -/
structure Ipv4 where
  number : UInt32
deriving DecidableEq, Repr

namespace Ipv4

/-- The byte with so many bytes behind it. -/
def byte (address : Ipv4) (behind : Nat) : Nat :=
  address.number.toNat / Word.bound (8 * behind) % Word.bound 8

/-- The written form of an address. -/
def text (address : Ipv4) : String :=
  ".".intercalate ([3, 2, 1, 0].map fun behind => toString (address.byte behind))

/-- The value of a number in an address. -/
def part? : List Char → Option Nat
  | '0' :: 'x' :: digits | '0' :: 'X' :: digits =>
    if digits.isEmpty then some 0 else Digit.number? 16 digits
  | '0' :: d :: digits => Digit.number? 8 (d :: digits)
  | cs => Digit.number? 10 cs

/-- The parts of a name between its points; a point at the very end does not count. -/
def parts (name : List Char) : List (List Char) :=
  match (Text.pieces '.' name).reverse with
  | [] :: before => before.reverse
  | all => all.reverse

/-- Whether a name ends in a number, so that it can only be an address. -/
def endsInNumber (name : List Char) : Bool :=
  match (parts name).getLast? with
  | none => false
  | some last => (!last.isEmpty && last.all Char.isDigit) || (part? last).isSome

/-- The number of an address from its parts; the last part fills the bytes that are left. -/
def assemble : (left : Nat) → List Nat → Option Nat
  | _, [] => none
  | left, [last] => if last < Word.bound (8 * left) then some last else none
  | left, part :: rest => do
    let number ← assemble (left - 1) rest
    if part < Word.bound 8 then some (part * Word.bound (8 * (left - 1)) + number) else none

/-- Reads an address. -/
def read? (name : List Char) : Option Ipv4 := do
  let written := parts name
  if 4 < written.length then none
  let number ← assemble 4 (← written.mapM part?)
  some ⟨UInt32.ofNat number⟩

end Ipv4

end PullRequestBot
