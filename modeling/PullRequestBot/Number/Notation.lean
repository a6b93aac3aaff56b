import PullRequestBot.Number.Shortest

set_option autoImplicit false

/-! # Written forms of floating point numbers

Two forms are in use. `positional` never shows an exponent. `scientific` shows one outside the range
from 10 ^ -5 to 10 ^ 16 and always marks the number as a fraction. Both show the fewest digits that
read back. -/

namespace PullRequestBot

/-- The digits of a natural number. -/
def decimalDigits (n : Nat) : List Char :=
  Nat.toDigits 10 n

namespace Decimal

/-- The digits with the decimal point at its place; `point` is written after the digits of an
    integer. -/
def positionalDigits (d : Decimal) (point : List Char) : List Char :=
  let digits := decimalDigits d.digits
  if 0 ≤ d.exponent then digits ++ List.replicate d.exponent.toNat '0' ++ point
  else
    let places := (-d.exponent).toNat
    if places < digits.length then
      digits.take (digits.length - places) ++ '.' :: digits.drop (digits.length - places)
    else '0' :: '.' :: List.replicate (places - digits.length) '0' ++ digits

end Decimal

namespace Binary64

/-- The sign of a number, written in front of it. -/
def signChars (x : Binary64) : List Char :=
  if x.isNegative then ['-'] else []

/-- Sign and digits without an exponent; an integer has no decimal point. -/
def positional (x : Binary64) : String :=
  if x.isNaN then "NaN"
  else if x.isFinite then String.ofList (x.signChars ++ x.shortest.positionalDigits [])
  else String.ofList (x.signChars ++ "inf".toList)

/-- An exponent with its sign and at least two digits. -/
def exponentChars (e : Int) : List Char :=
  let digits := decimalDigits e.natAbs
  (if e < 0 then '-' else '+') :: (if digits.length < 2 then '0' :: digits else digits)

/-- Sign and digits of a finite number, with an exponent where the number is small or large. -/
def scientific (x : Binary64) : String :=
  let d := x.shortest
  let digits := decimalDigits d.digits
  let point : Int := digits.length + d.exponent
  let body :=
    if d.digits = 0 then "0.0".toList
    else if -5 < point ∧ point ≤ 16 then d.positionalDigits ['.', '0']
    else
      let fraction := if digits.length = 1 then [] else '.' :: digits.tail
      digits.take 1 ++ fraction ++ 'e' :: exponentChars (point - 1)
  String.ofList (x.signChars ++ body)

end Binary64

end PullRequestBot
