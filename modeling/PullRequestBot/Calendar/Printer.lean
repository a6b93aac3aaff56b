import PullRequestBot.Calendar.Timestamp

set_option autoImplicit false

/-! # Written timestamps

The usual form is `2024-05-03T17:04:20Z`. Fractions of a second are written with three, six or nine
digits, as few as hold them. A year outside 0 to 9999 has a sign and at least four digits. -/

namespace PullRequestBot

/-- A number with zeros in front up to the given width. -/
def paddedNumber (width n : Nat) : List Char :=
  let digits := Nat.toDigits 10 n
  List.replicate (width - digits.length) '0' ++ digits

namespace Timestamp

/-- The digits of the year. -/
def yearChars (year : Int) : List Char :=
  if 0 ≤ year ∧ year ≤ 9999 then paddedNumber 4 year.toNat
  else (if year < 0 then '-' else '+') :: paddedNumber 4 year.natAbs

/-- The fraction of the second behind its point; nothing for a whole second. -/
def fractionChars (nanoseconds : Nat) : List Char :=
  if nanoseconds = 0 then []
  else if nanoseconds % 1000000 = 0 then '.' :: paddedNumber 3 (nanoseconds / 1000000)
  else if nanoseconds % 1000 = 0 then '.' :: paddedNumber 6 (nanoseconds / 1000)
  else '.' :: paddedNumber 9 nanoseconds

/-- Date and time to the second, `T` between them. -/
def wholeChars (t : Timestamp) : List Char :=
  yearChars t.date.year ++ '-' :: paddedNumber 2 t.date.month ++ '-' :: paddedNumber 2 t.date.day ++
    'T' :: paddedNumber 2 t.hour ++ ':' :: paddedNumber 2 t.minute ++ ':' :: paddedNumber 2 t.second

/-- Date and time with their fraction, marked `Z`. -/
def text (t : Timestamp) : String :=
  String.ofList (t.wholeChars ++ fractionChars t.fraction ++ ['Z'])

/-- Date and time to the second, marked `Z`. -/
def wholeText (t : Timestamp) : String :=
  String.ofList (t.wholeChars ++ ['Z'])

/-- Date and time with their fraction and the offset zero. -/
def offsetText (t : Timestamp) : String :=
  String.ofList (t.wholeChars ++ fractionChars t.fraction ++ "+00:00".toList)

/-- Date and time to the microsecond, marked `Z`. -/
def microText (t : Timestamp) : String :=
  String.ofList (t.wholeChars ++ '.' :: paddedNumber 6 (t.fraction / 1000) ++ ['Z'])

/-- The short names of the days of the week, from Sunday. -/
def weekdayNames : List String := ["Sun", "Mon", "Tue", "Wed", "Thu", "Fri", "Sat"]

/-- The short names of the months. -/
def monthNames : List String :=
  ["Jan", "Feb", "Mar", "Apr", "May", "Jun", "Jul", "Aug", "Sep", "Oct", "Nov", "Dec"]

/-- The form of dates in headers: `Fri, 03 May 2024 17:04:20 GMT`. -/
def headerText (t : Timestamp) : String :=
  let two (n : Nat) : String := String.ofList (paddedNumber 2 n)
  let weekday := weekdayNames.getD t.weekday ""
  let month := monthNames.getD (t.date.month - 1) ""
  let year := String.ofList (yearChars t.date.year)
  s!"{weekday}, {two t.date.day} {month} {year} {two t.hour}:{two t.minute}:{two t.second} GMT"

end Timestamp

end PullRequestBot
