import PullRequestBot.Calendar.Timestamp
import PullRequestBot.Number.Word
import PullRequestBot.Text.Blank

set_option autoImplicit false

/-! # Reading timestamps

The form accepted is the usual one, with some freedom: blanks may stand before each number, around
the marks and at both ends; numbers may lack leading zeros; a blank or a small `t` may stand for the
`T`; and the offset may be `Z`, `UTC` or hours and minutes with or without a colon. What is wrong
with a text is told by `DateFailure`: the first fault in reading order decides. -/

namespace PullRequestBot

/-- Why a text is no timestamp. -/
inductive DateFailure where
  | outOfRange
  | impossible
  | invalid
  | tooShort
  | tooLong
deriving DecidableEq, Repr

/-- The wording of a date failure. -/
def DateFailure.message : DateFailure → String
  | .outOfRange => "input is out of range"
  | .impossible => "no possible date and time matching input"
  | .invalid => "input contains invalid characters"
  | .tooShort => "premature end of input"
  | .tooLong => "trailing input"

namespace Timestamp

open Text (trimStart isBlank)

/-! ## Numbers and marks -/

/-- Reads at least one digit and at most as many as there are elements of `room`. -/
def readDigits (room : Nat) (cs : List Char) : Except DateFailure (Nat × List Char) :=
  match cs with
  | [] => .error .tooShort
  | c :: _ =>
    if c.isDigit then
      let digits := (cs.take room).takeWhile Char.isDigit
      let value := digits.foldl (fun n d => n * 10 + (d.toNat - '0'.toNat)) 0
      if Word.holds 64 value then .ok (value, cs.drop digits.length) else .error .outOfRange
    else .error .invalid

/-- Reads a number of at most two digits within bounds, blanks before it allowed. -/
def readSmall (low high : Nat) (cs : List Char) : Except DateFailure (Nat × List Char) := do
  let (value, rest) ← readDigits 2 (trimStart cs)
  if low ≤ value ∧ value ≤ high then .ok (value, rest) else .error .outOfRange

/-- Reads a year: four digits at most, or any number behind a sign. -/
def readYear (cs : List Char) : Except DateFailure (Int × List Char) := do
  let (value, rest) ←
    match trimStart cs with
    | '-' :: digits => (readDigits digits.length digits).map fun (n, rest) => (-(n : Int), rest)
    | '+' :: digits => (readDigits digits.length digits).map fun (n, rest) => ((n : Int), rest)
    | other => (readDigits 4 other).map fun (n, rest) => ((n : Int), rest)
  if Word.holds 32 value then .ok (value, rest) else .error .outOfRange

/-- Passes a mark, blanks before it allowed. -/
def passMark (mark : Char) (cs : List Char) : Except DateFailure (List Char) :=
  match trimStart cs with
  | [] => .error .tooShort
  | c :: rest => if c = mark then .ok rest else .error .invalid

/-- Reads the fraction of a second behind its point, in nanoseconds; digits after the ninth are
    passed over. -/
def readFraction (cs : List Char) : Except DateFailure (Nat × List Char) :=
  match cs with
  | '.' :: rest => do
    let (value, after) ← readDigits 9 rest
    let width := rest.length - after.length
    .ok (value * Nat.pow 10 (9 - width), after.dropWhile Char.isDigit)
  | _ => .ok (0, cs)

/-! ## Offsets -/

/-- Reads two digits of which the first is at most `5`, or any if `anyTens`. -/
def readPair (anyTens : Bool) (cs : List Char) : Except DateFailure (Nat × List Char) :=
  match cs with
  | a :: b :: rest =>
    if a.isDigit && b.isDigit then
      if anyTens || a ≤ '5' then
        .ok ((a.toNat - '0'.toNat) * 10 + (b.toNat - '0'.toNat), rest)
      else .error .outOfRange
    else .error .invalid
  | [a] => if a.toNat < 0x80 then .error .tooShort else .error .invalid
  | [] => .error .tooShort

/-- Reads hours and minutes after the sign of an offset, in seconds. -/
def readHoursMinutes (cs : List Char) : Except DateFailure (Nat × List Char) := do
  let (hours, afterHours) ← readPair true cs
  let (minutes, rest) ← readPair false (afterHours.dropWhile fun c => c = ':' || isBlank c)
  .ok (hours * 3600 + minutes * 60, rest)

/-- Reads an offset in seconds. -/
def readOffset (cs : List Char) : Except DateFailure (Int × List Char) :=
  if (cs.take 3).map Char.toUpper = ['U', 'T', 'C'] then .ok (0, cs.drop 3)
  else
    match cs with
    | [] => .error .tooShort
    | c :: rest =>
      if c = 'Z' || c = 'z' then .ok (0, rest)
      else if c = '+' then (readHoursMinutes rest).map fun (n, after) => ((n : Int), after)
      else if c = '-' || c = '−' then
        (readHoursMinutes rest).map fun (n, after) => (-(n : Int), after)
      else .error .invalid

/-! ## Whole timestamps -/

/-- Passes the `T` between date and time. -/
def passSeparator : List Char → Except DateFailure (List Char)
  | [] => .error .tooShort
  | c :: rest => if c = 'T' || c = 't' || c = ' ' then .ok rest else .error .invalid

/-- Reads a timestamp from a text. -/
def read (text : String) : Except DateFailure Timestamp := do
  let (year, cs) ← readYear text.toList
  let (month, cs) ← readSmall 1 12 (← passMark '-' cs)
  let (day, cs) ← readSmall 1 31 (← passMark '-' cs)
  let cs ← passSeparator cs
  let (hour, cs) ← readSmall 0 23 cs
  let (minute, cs) ← readSmall 0 59 (← passMark ':' cs)
  let (second, cs) ← readSmall 0 60 (← passMark ':' cs)
  let (nanoseconds, cs) ← readFraction cs
  let (offset, rest) ← readOffset (trimStart cs)
  if !(trimStart rest).isEmpty then throw .tooLong
  match Date.ofParts? year month day with
  | none => throw .outOfRange
  | some date =>
    if 86400 ≤ offset.natAbs then throw .outOfRange
    let isLeap := second == 60
    let seconds : Int :=
      date.toDays * 86400 + hour * 3600 + minute * 60 + (if isLeap then 59 else second) - offset
    if seconds < firstSecond ∨ lastSecond < seconds then throw .impossible
    return ⟨seconds, (if isLeap then nanosecondsPerSecond else 0) + nanoseconds⟩

end Timestamp

end PullRequestBot
