set_option autoImplicit false

/-! # Digits and signs

Digits to a base of at most 16, capital and small letters alike, the numbers that rows of digits spell, and
the signs in front of them. -/

namespace PullRequestBot.Digit

/-- The value of a digit to the given base. -/
def value? (base : Nat) (c : Char) : Option Nat :=
  let value :=
    if c.isDigit then c.toNat - '0'.toNat
    else if 'a' ≤ c ∧ c ≤ 'f' then c.toNat - 'a'.toNat + 10
    else if 'A' ≤ c ∧ c ≤ 'F' then c.toNat - 'A'.toNat + 10
    else 16
  if value < base then some value else none

/-- The number of digit values, the highest first. -/
def valueOf (base : Nat) (digits : List Nat) : Nat :=
  digits.foldl (fun n d => n * base + d) 0

/-- The number that a row of digits spells; `none` for an empty row and for any other character. -/
def number? (base : Nat) (cs : List Char) : Option Nat :=
  if cs.isEmpty then none else (cs.mapM (value? base)).map (valueOf base)

/-- A digit to base 16, capital letters. -/
def upper (n : Nat) : Char :=
  if n < 10 then Char.ofNat ('0'.toNat + n) else Char.ofNat ('A'.toNat + n - 10)

/-- Splits a sign off; true stands for the minus sign. -/
def splitSign : List Char → Bool × List Char
  | '+' :: rest => (false, rest)
  | '-' :: rest => (true, rest)
  | cs => (false, cs)

end PullRequestBot.Digit
