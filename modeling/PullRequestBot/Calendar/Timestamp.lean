set_option autoImplicit false

/-! # Points in time

A timestamp counts seconds from the start of 1970 and nanoseconds within the second, all in
Coordinated Universal Time and the Gregorian calendar extended in both directions. A nanosecond count
of 10 ^ 9 or more marks a leap second, which is written as second 60. -/

namespace PullRequestBot

/-! ## Dates -/

/-- A date of the Gregorian calendar. -/
structure Date where
  year : Int
  month : Nat
  day : Nat
deriving DecidableEq, Repr

namespace Date

/-- Whether a year has 366 days. -/
def isLeapYear (year : Int) : Bool :=
  year % 4 == 0 && (year % 100 != 0 || year % 400 == 0)

/-- The number of days of a month. -/
def daysInMonth (year : Int) (month : Nat) : Nat :=
  if month = 2 then if isLeapYear year then 29 else 28
  else if [4, 6, 9, 11].contains month then 30
  else 31

/-- The first year that dates may have. -/
def firstYear : Int := -262143

/-- The last year that dates may have. -/
def lastYear : Int := 262142

/-- The date, if it is one of the calendar and its year is in range. -/
def ofParts? (year : Int) (month day : Nat) : Option Date :=
  if firstYear ≤ year ∧ year ≤ lastYear ∧ 1 ≤ month ∧ month ≤ 12 ∧ 1 ≤ day ∧
      day ≤ daysInMonth year month then
    some ⟨year, month, day⟩
  else none

/-- The number of days from the first of March of year 0 to the first of a month, months counted
    from March. -/
def daysBeforeMonth (monthFromMarch : Nat) : Nat :=
  (153 * monthFromMarch + 2) / 5

/-- The days from the start of 1970 to the date. A year is taken to start in March, so that the
    leap day is its last. -/
def toDays (date : Date) : Int :=
  let year := if date.month ≤ 2 then date.year - 1 else date.year
  let era := year.fdiv 400
  let yearOfEra := year - era * 400
  let monthFromMarch := (date.month + 9) % 12
  let dayOfYear : Int := daysBeforeMonth monthFromMarch + date.day - 1
  let dayOfEra := yearOfEra * 365 + yearOfEra / 4 - yearOfEra / 100 + dayOfYear
  era * 146097 + dayOfEra - 719468

/-- The date that is the given number of days after the start of 1970. -/
def ofDays (days : Int) : Date :=
  let shifted := days + 719468
  let era := shifted.fdiv 146097
  let dayOfEra := (shifted - era * 146097).toNat
  let yearOfEra := (dayOfEra - dayOfEra / 1460 + dayOfEra / 36524 - dayOfEra / 146096) / 365
  let dayOfYear := dayOfEra - (365 * yearOfEra + yearOfEra / 4 - yearOfEra / 100)
  let monthFromMarch := (5 * dayOfYear + 2) / 153
  let day := dayOfYear - daysBeforeMonth monthFromMarch + 1
  let month := if monthFromMarch < 10 then monthFromMarch + 3 else monthFromMarch - 9
  let year := era * 400 + yearOfEra + (if month ≤ 2 then 1 else 0)
  ⟨year, month, day⟩

end Date

/-! ## Timestamps -/

/-- A point in time: seconds from the start of 1970, and nanoseconds within the second. -/
structure Timestamp where
  seconds : Int
  nanoseconds : Nat := 0
deriving DecidableEq, Repr

namespace Timestamp

/-- The nanoseconds in a second. -/
def nanosecondsPerSecond : Nat := 1000000000

/-- The first second whose date is in range. -/
def firstSecond : Int := -8334601228800

/-- The last second whose date is in range. -/
def lastSecond : Int := 8210266876799

/-- The start of a second, if its date is in range. -/
def ofSeconds? (seconds : Int) : Option Timestamp :=
  if firstSecond ≤ seconds ∧ seconds ≤ lastSecond then some ⟨seconds, 0⟩ else none

/-- The date. -/
def date (t : Timestamp) : Date :=
  Date.ofDays (t.seconds.fdiv 86400)

/-- The second of the day. -/
def secondOfDay (t : Timestamp) : Nat :=
  (t.seconds.fmod 86400).toNat

/-- The hour of the day. -/
def hour (t : Timestamp) : Nat :=
  t.secondOfDay / 3600

/-- The minute of the hour. -/
def minute (t : Timestamp) : Nat :=
  t.secondOfDay / 60 % 60

/-- The second of the minute; a leap second is second 60. -/
def second (t : Timestamp) : Nat :=
  t.secondOfDay % 60 + t.nanoseconds / nanosecondsPerSecond

/-- The nanoseconds within the second shown. -/
def fraction (t : Timestamp) : Nat :=
  t.nanoseconds % nanosecondsPerSecond

/-- The day of the week, counted from Sunday. -/
def weekday (t : Timestamp) : Nat :=
  ((t.seconds.fdiv 86400 + 4).fmod 7).toNat

end Timestamp

end PullRequestBot
