import PullRequestBot.Number.Binary64

set_option autoImplicit false

/-! # The fewest digits that read back

A finite number is written with the fewest decimal digits whose decimal still rounds to it. For
1, 2, … 17 digits the two neighbours of the number on that decimal grid are tried; the first grid
with a hit wins, and of two hits the nearer. -/

namespace PullRequestBot

/-- A decimal number `digits · 10 ^ exponent`. -/
structure Decimal where
  digits : Nat
  exponent : Int
deriving DecidableEq, Repr

namespace Decimal

/-- The number of decimal digits. -/
def width (d : Decimal) : Nat :=
  (Nat.toDigits 10 d.digits).length

/-- The same decimal without zeros at the end of its digits. -/
def normalizeWithin : Nat → Decimal → Decimal
  | 0, d => d
  | fuel + 1, d =>
    if d.digits ≠ 0 ∧ d.digits % 10 = 0 then
      normalizeWithin fuel ⟨d.digits / 10, d.exponent + 1⟩
    else d

/-- The same decimal without zeros at the end of its digits; each step drops one of them. -/
def normalize (d : Decimal) : Decimal :=
  normalizeWithin d.width d

end Decimal

namespace Binary64

/-- The exponent `k` with `10 ^ k ≤ num / den < 10 ^ (k + 1)`. -/
def decimalExponent (num den : Nat) : Int :=
  if den ≤ num then ((Nat.toDigits 10 (num / den)).length : Int) - 1
  else
    let width := (Nat.toDigits 10 (den / num)).length
    if den ≤ num * Nat.pow 10 (width - 1) then -((width : Int) - 1) else -(width : Int)

/-- The grid neighbour below `num / den` in units of `10 ^ unit`, and whether the number lies in
    the lower half of its cell. -/
def gridBelow (num den : Nat) (unit : Int) : Nat × Bool :=
  let n := if 0 ≤ unit then num else num * Nat.pow 10 (-unit).toNat
  let d := if 0 ≤ unit then den * Nat.pow 10 unit.toNat else den
  (n / d, 2 * (n % d) ≤ d)

/-- The decimal of the given number of digits that rounds to `x`, if there is one. -/
def withDigits? (x : Binary64) (count : Nat) : Option Decimal :=
  let (num, den) := x.ratio
  let unit := decimalExponent num den - ((count : Int) - 1)
  let (below, lowerHalf) := gridBelow num den unit
  let candidates := if lowerHalf then [below, below + 1] else [below + 1, below]
  (candidates.find? fun n => ofDecimal x.isNegative n unit == x).map fun n => ⟨n, unit⟩

/-- The shortest decimal that rounds to the absolute value of a finite number. -/
def shortest (x : Binary64) : Decimal :=
  if x.isZero then ⟨0, 0⟩
  else
    match (List.range 17).findSome? fun i => x.withDigits? (i + 1) with
    | some d => d.normalize
    | none => ⟨0, 0⟩

end Binary64

end PullRequestBot
