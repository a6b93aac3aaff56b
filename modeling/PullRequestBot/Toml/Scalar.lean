import PullRequestBot.Calendar.Timestamp
import PullRequestBot.Number.Digit
import PullRequestBot.Number.Word
import PullRequestBot.Toml.Basic

set_option autoImplicit false

/-! # Numbers, dates and times in TOML

A word that is neither a string nor a boolean is a number, a date, a time, or both of the latter.
Underscores may stand between two digits. -/

namespace PullRequestBot.Toml

open Digit (splitSign)

/-! ## Digits -/

/-- Digits with the underscores between them left out; `none` if there is no digit, or an underscore
    that is not between two digits. -/
def digits? (base : Nat) : List Char → Option (List Nat)
  | [] => none
  | [c] => (Digit.value? base c).map fun d => [d]
  | c :: '_' :: rest => do
    let d ← Digit.value? base c
    let more ← digits? base rest
    some (d :: more)
  | c :: rest => do
    let d ← Digit.value? base c
    let more ← digits? base rest
    some (d :: more)

/-! ## Numbers -/

/-- An integer of 64 bits. -/
def bounded? (value : Int) : Option Toml :=
  if Word.holds 64 value then some (.integer value) else none

/-- Digits without a zero in front of others. -/
def plainDigits? (cs : List Char) : Option (List Nat) := do
  let digits ← digits? 10 cs
  if digits.head? = some 0 ∧ digits.length ≠ 1 then none else some digits

/-- An integer. -/
def integer? (cs : List Char) : Option Toml :=
  match cs with
  | '0' :: 'x' :: rest => (digits? 16 rest).bind fun ds => bounded? (Digit.valueOf 16 ds)
  | '0' :: 'o' :: rest => (digits? 8 rest).bind fun ds => bounded? (Digit.valueOf 8 ds)
  | '0' :: 'b' :: rest => (digits? 2 rest).bind fun ds => bounded? (Digit.valueOf 2 ds)
  | _ =>
    let (negative, body) := splitSign cs
    (plainDigits? body).bind fun ds =>
      let value : Int := Digit.valueOf 10 ds
      bounded? (if negative then -value else value)

/-- The exponent of a float. -/
def exponent? (cs : List Char) : Option Int := do
  let (negative, body) := splitSign cs
  let digits ← digits? 10 body
  let value : Int := Digit.valueOf 10 digits
  some (if negative then -value else value)

/-- A float of sign, integer part, fraction and exponent, unless it is too large. -/
def floatOf? (negative : Bool) (whole fraction : List Nat) (exponent : Int) : Option Toml :=
  let digits := Digit.valueOf 10 (whole ++ fraction)
  let value := Binary64.ofDecimal negative digits (exponent - fraction.length)
  if value.isFinite then some (.float value) else none

/-- A float. -/
def float? (cs : List Char) : Option Toml :=
  let (negative, body) := splitSign cs
  if body = "inf".toList then some (.float (Binary64.infinity negative))
  else if body = "nan".toList then some (.float (Binary64.nan negative))
  else do
    let isMark (c : Char) : Bool := c = 'e' || c = 'E'
    let mantissa := body.takeWhile fun c => !isMark c
    let afterMantissa := body.drop mantissa.length
    let exponent ← if afterMantissa.isEmpty then some 0 else exponent? afterMantissa.tail
    let whole := mantissa.takeWhile (· ≠ '.')
    let wholeDigits ← plainDigits? whole
    match mantissa.drop whole.length with
    | [] =>
      if afterMantissa.isEmpty then none else floatOf? negative wholeDigits [] exponent
    | _ :: fraction => do
      let fractionDigits ← digits? 10 fraction
      floatOf? negative wholeDigits fractionDigits exponent

/-! ## Dates and times -/

/-- Reads exactly `count` digits. -/
def fixedDigits (count : Nat) (cs : List Char) : Option (Nat × List Char) :=
  let digits := cs.take count
  if digits.length = count ∧ digits.all Char.isDigit then
    some (digits.foldl (fun n d => n * 10 + (d.toNat - '0'.toNat)) 0, cs.drop count)
  else none

/-- Passes one character. -/
def pass (c : Char) : List Char → Option (List Char)
  | d :: rest => if c = d then some rest else none
  | [] => none

/-- Reads a date; its text stays as it is. -/
def readDate (cs : List Char) : Option (List Char × List Char) := do
  let (year, rest) ← fixedDigits 4 cs
  let (month, rest) ← fixedDigits 2 (← pass '-' rest)
  let (day, rest) ← fixedDigits 2 (← pass '-' rest)
  let _ ← Date.ofParts? year month day
  some (cs.take 10, rest)

/-- A fraction of a second with nine digits at most and no zeros at its end but a lone one. -/
def tidyFraction (digits : List Char) : List Char :=
  let kept := ((digits.take 9).reverse.dropWhile (· = '0')).reverse
  '.' :: if kept.isEmpty then ['0'] else kept

/-- Reads a time, seconds and fraction of a second optional. -/
def readTime (cs : List Char) : Option (List Char × List Char) := do
  let (hour, rest) ← fixedDigits 2 cs
  let (minute, rest) ← fixedDigits 2 (← pass ':' rest)
  if 23 < hour ∨ 59 < minute then none
  match rest with
  | ':' :: tail => do
    let (second, rest) ← fixedDigits 2 tail
    if 60 < second then none
    match rest with
    | '.' :: tail => do
      let digits := tail.takeWhile Char.isDigit
      if digits.isEmpty then none
      some (cs.take 8 ++ tidyFraction digits, tail.drop digits.length)
    | _ => some (cs.take 8, rest)
  | _ => some (cs.take 5, rest)

/-- Reads the offset of a time, if there is one. -/
def readOffset (cs : List Char) : Option (List Char) :=
  match cs with
  | [] => some []
  | ['Z'] | ['z'] => some ['Z']
  | sign :: rest =>
    if sign = '+' ∨ sign = '-' then do
      let (hours, after) ← fixedDigits 2 rest
      let (minutes, after) ← fixedDigits 2 (← pass ':' after)
      if after ≠ [] ∨ 23 < hours ∨ 59 < minutes then none
      some ((if hours = 0 ∧ minutes = 0 then '+' else sign) :: rest)
    else none

/-- The normal text of a date, a time, or both. -/
def moment? (cs : List Char) : Option Toml :=
  match readDate cs with
  | some (date, []) => some (.text (String.ofList date))
  | some (date, mark :: rest) =>
    if mark = 'T' ∨ mark = 't' ∨ mark = ' ' then do
      let (time, rest) ← readTime rest
      let offset ← readOffset rest
      some (.text (String.ofList (date ++ 'T' :: time ++ offset)))
    else none
  | none =>
    match readTime cs with
    | some (time, []) => some (.text (String.ofList time))
    | _ => none

/-- The value of a word. -/
def scalar? (cs : List Char) : Option Toml :=
  (integer? cs).orElse fun _ => (float? cs).orElse fun _ => moment? cs

end PullRequestBot.Toml
