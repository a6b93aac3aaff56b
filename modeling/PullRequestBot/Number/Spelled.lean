import PullRequestBot.Number.Binary64
import PullRequestBot.Number.Digit
import PullRequestBot.Number.Word

set_option autoImplicit false

/-! # Spelled numbers

Numbers as people write them in variables and on command lines: ASCII digits, with a sign in front if
they like, and nothing around them. -/

namespace PullRequestBot.Spelled

open Digit (splitSign)

/-! ## Digits -/

/-- The number that decimal digits spell. -/
def ofDigits (digits : List Char) : Nat :=
  digits.foldl (fun n d => n * 10 + (d.toNat - '0'.toNat)) 0

/-- At least one character, and all of them digits. -/
def isDigits (cs : List Char) : Bool :=
  !cs.isEmpty && cs.all Char.isDigit

/-! ## Integers -/

/-- A natural number below a bound; a plus sign may stand in front. -/
def natural? (bound : Nat) (text : String) : Option Nat :=
  let digits := match text.toList with
    | '+' :: rest => rest
    | cs => cs
  if isDigits digits ∧ ofDigits digits < bound then some (ofDigits digits) else none

/-- An integer of 64 bits. -/
def integer? (text : String) : Option Int :=
  let (negative, digits) := splitSign text.toList
  if isDigits digits then
    let size : Int := ofDigits digits
    let number := if negative then -size else size
    if Word.holds 64 number then some number else none
  else none

/-! ## Floating point numbers -/

/-- The exponent behind its mark; without one it is zero. -/
def exponent? : List Char → Option Int
  | [] => some 0
  | mark :: rest =>
    let (negative, digits) := splitSign rest
    if (mark = 'e' ∨ mark = 'E') ∧ isDigits digits then
      some (if negative then -(ofDigits digits : Int) else ofDigits digits)
    else none

/-- Digits with at most one point among them, then an exponent. -/
def decimal? (negative : Bool) (cs : List Char) : Option Binary64 :=
  let whole := cs.takeWhile Char.isDigit
  let rest := cs.drop whole.length
  let (fraction, rest) := match rest with
    | '.' :: digits => (digits.takeWhile Char.isDigit, digits.dropWhile Char.isDigit)
    | _ => ([], rest)
  if whole.isEmpty ∧ fraction.isEmpty then none
  else (exponent? rest).map fun exponent =>
    Binary64.ofDecimal negative (ofDigits (whole ++ fraction)) (exponent - fraction.length)

/-- A floating point number, or the name of one that has no digits. -/
def float? (text : String) : Option Binary64 :=
  let (negative, body) := splitSign text.toList
  let word := String.ofList (body.map Char.toLower)
  if word = "inf" ∨ word = "infinity" then some (Binary64.infinity negative)
  else if word = "nan" then some (Binary64.nan negative)
  else decimal? negative body

end PullRequestBot.Spelled
