import PullRequestBot.Calendar.Timestamp

set_option autoImplicit false

/-! # Days and dates

A count of days is written as a date of the calendar (`ofParts?_ofDays`), and the date is counted back to the
same day (`toDays_ofDays`). The years of an era of 400 begin in March; what has to be shown of the rule that
finds the year of a day is that it never leaves the year that the day is in (`yearOfEra_spec`). It is enough
to look at the first and the last day of each year, since the rule is monotone in between. -/

namespace PullRequestBot.Date

/-! ## Years of an era -/

/-- The days of an era in front of a year. The last day of the era is the leap day of its last year. -/
def daysBeforeYear (year : Nat) : Nat :=
  365 * year + year / 4 - year / 100 + year / 400

/-- A day of an era, the leap days in front of it not counted. -/
def withoutLeapDays (dayOfEra : Nat) : Nat :=
  dayOfEra - dayOfEra / 1460 + dayOfEra / 36524 - dayOfEra / 146096

/-- The year of an era that a day is in. -/
def yearOfEra (dayOfEra : Nat) : Nat :=
  withoutLeapDays dayOfEra / 365

theorem daysBeforeYear_mono {a b : Nat} (h : a ≤ b) : daysBeforeYear a ≤ daysBeforeYear b := by
  have hcenturies : b / 100 ≤ a / 100 + (b - a) := by omega
  have hleap : a / 4 ≤ b / 4 ∧ a / 400 ≤ b / 400 := ⟨Nat.div_le_div_right h, Nat.div_le_div_right h⟩
  unfold daysBeforeYear
  omega

theorem withoutLeapDays_mono {a b : Nat} (hab : a ≤ b) (hb : b < 146097) :
    withoutLeapDays a ≤ withoutLeapDays b := by
  unfold withoutLeapDays
  by_cases hlast : b = 146096
  · subst hlast
    omega
  · omega

/-- The first and the last day of a year belong to it. -/
theorem withoutLeapDays_ends : ∀ year < 400, 365 * year ≤ withoutLeapDays (daysBeforeYear year) ∧
    withoutLeapDays (daysBeforeYear (year + 1) - 1) < 365 * (year + 1) := by
  decide +kernel

/-- A day of an era is in its year. -/
theorem yearOfEra_spec {dayOfEra : Nat} (h : dayOfEra < 146097) :
    yearOfEra dayOfEra < 400 ∧ daysBeforeYear (yearOfEra dayOfEra) ≤ dayOfEra ∧
      dayOfEra < daysBeforeYear (yearOfEra dayOfEra + 1) := by
  have hlast : withoutLeapDays dayOfEra < 365 * 400 :=
    Nat.lt_of_le_of_lt (withoutLeapDays_mono (Nat.le_of_lt_succ h) (by decide)) (by decide)
  have hyear : 365 * yearOfEra dayOfEra ≤ withoutLeapDays dayOfEra ∧
      withoutLeapDays dayOfEra < 365 * (yearOfEra dayOfEra + 1) := by
    unfold yearOfEra
    omega
  generalize yearOfEra dayOfEra = year at hyear ⊢
  have hera : year < 400 := by omega
  refine ⟨hera, Nat.le_of_not_lt fun hbefore => ?_, Nat.lt_of_not_le fun hafter => ?_⟩
  · -- the day would be at most the last one of the year before
    cases year with
    | zero => exact absurd hbefore (Nat.not_lt_zero _)
    | succ before =>
        have hends := (withoutLeapDays_ends before (by omega)).2
        have hmono : withoutLeapDays dayOfEra ≤ withoutLeapDays (daysBeforeYear (before + 1) - 1) :=
          withoutLeapDays_mono (by omega) (by unfold daysBeforeYear; omega)
        omega
  · -- the day would be at least the first one of the year after
    by_cases hend : year + 1 < 400
    · have hends := (withoutLeapDays_ends (year + 1) hend).1
      have hmono := withoutLeapDays_mono hafter h
      omega
    · unfold daysBeforeYear at hafter
      omega

/-! ## Days of a year -/

/-- The date of a day of a year that begins in March. -/
def ofDayOfYear (year : Int) (dayOfYear : Nat) : Date :=
  let monthFromMarch := (5 * dayOfYear + 2) / 153
  let month := if monthFromMarch < 10 then monthFromMarch + 3 else monthFromMarch - 9
  ⟨year + (if month ≤ 2 then 1 else 0), month, dayOfYear - daysBeforeMonth monthFromMarch + 1⟩

/-- Where a count of days lies: in an era, in a year of it, and on a day of that year. -/
theorem ofDays_eq (days : Int) :
    ∃ (era : Int) (year dayOfYear : Nat), year < 400 ∧
      daysBeforeYear year + dayOfYear < daysBeforeYear (year + 1) ∧
      days + 719468 = era * 146097 + (daysBeforeYear year + dayOfYear : Nat) ∧
      ofDays days = ofDayOfYear (era * 400 + year) dayOfYear := by
  have hera : (days + 719468).fdiv 146097 = (days + 719468) / 146097 :=
    Int.fdiv_eq_ediv_of_nonneg _ (by decide)
  obtain ⟨dayOfEra, hday⟩ : ∃ dayOfEra : Nat,
      days + 719468 - (days + 719468).fdiv 146097 * 146097 = dayOfEra :=
    Int.eq_ofNat_of_zero_le (by omega)
  have hbound : dayOfEra < 146097 := by omega
  obtain ⟨hyear, hfirst, hlast⟩ := yearOfEra_spec hbound
  refine ⟨(days + 719468).fdiv 146097, yearOfEra dayOfEra, dayOfEra - daysBeforeYear (yearOfEra dayOfEra),
    hyear, by omega, by omega, ?_⟩
  have hbefore : 365 * yearOfEra dayOfEra + yearOfEra dayOfEra / 4 - yearOfEra dayOfEra / 100 =
      daysBeforeYear (yearOfEra dayOfEra) := by
    unfold daysBeforeYear
    omega
  have htoNat : (days + 719468 - (days + 719468).fdiv 146097 * 146097).toNat = dayOfEra := by
    rw [hday]
    rfl
  rw [← hbefore]
  unfold ofDays
  dsimp only
  rw [htoNat]
  rfl

theorem dayOfYear_lt {year dayOfYear : Nat}
    (h : daysBeforeYear year + dayOfYear < daysBeforeYear (year + 1)) : dayOfYear < 366 := by
  unfold daysBeforeYear at h
  omega

theorem ofDayOfYear_month (year : Int) {dayOfYear : Nat} (h : dayOfYear < 366) :
    1 ≤ (ofDayOfYear year dayOfYear).month ∧ (ofDayOfYear year dayOfYear).month ≤ 12 ∧
      ((ofDayOfYear year dayOfYear).month + 9) % 12 = (5 * dayOfYear + 2) / 153 := by
  simp only [ofDayOfYear]
  split
  · omega
  · omega

theorem ofDayOfYear_day (year : Int) (dayOfYear : Nat) :
    daysBeforeMonth ((5 * dayOfYear + 2) / 153) + (ofDayOfYear year dayOfYear).day = dayOfYear + 1 := by
  simp only [ofDayOfYear, daysBeforeMonth]
  omega

/-- A day of a year is counted back. -/
theorem toDays_ofDayOfYear (era : Int) {year dayOfYear : Nat} (hyear : year < 400) (hday : dayOfYear < 366) :
    (ofDayOfYear (era * 400 + year) dayOfYear).toDays =
      era * 146097 + (daysBeforeYear year + dayOfYear : Nat) - 719468 := by
  obtain ⟨-, -, hmonth⟩ := ofDayOfYear_month (era * 400 + year) hday
  have hsum := ofDayOfYear_day (era * 400 + year) dayOfYear
  have hmarch : (if (ofDayOfYear (era * 400 + year) dayOfYear).month ≤ 2
      then (ofDayOfYear (era * 400 + year) dayOfYear).year - 1
      else (ofDayOfYear (era * 400 + year) dayOfYear).year) = era * 400 + year := by
    simp only [ofDayOfYear]
    split
    · omega
    · omega
  have hera : (era * 400 + year).fdiv 400 = era := by
    rw [Int.fdiv_eq_ediv_of_nonneg _ (by decide)]
    omega
  simp only [toDays, hmarch, hera, hmonth, daysBeforeYear]
  omega

/-- Counting days and writing dates are inverse to each other. -/
theorem toDays_ofDays (days : Int) : (ofDays days).toDays = days := by
  obtain ⟨era, year, dayOfYear, hyear, hday, hdays, hdate⟩ := ofDays_eq days
  rw [hdate, toDays_ofDayOfYear era hyear (dayOfYear_lt hday)]
  omega

/-! ## Dates of the calendar -/

theorem daysInMonth_le (year : Int) (month : Nat) : daysInMonth year month ≤ 31 := by
  unfold daysInMonth
  split
  · split <;> decide
  · split <;> decide

theorem ofParts?_eq_some_iff {year : Int} {month day : Nat} {date : Date} :
    ofParts? year month day = some date ↔
      (firstYear ≤ year ∧ year ≤ lastYear ∧ 1 ≤ month ∧ month ≤ 12 ∧ 1 ≤ day ∧
        day ≤ daysInMonth year month) ∧ date = ⟨year, month, day⟩ := by
  rw [ofParts?]
  split
  · next h => simp [h, eq_comm]
  · next h => simp [h]

theorem isLeapYear_iff {year : Int} :
    isLeapYear year = true ↔ year % 4 = 0 ∧ (year % 100 ≠ 0 ∨ year % 400 = 0) := by
  simp [isLeapYear]

/-- The days that a month has in every year. -/
def leastDays (month : Nat) : Nat :=
  if month = 2 then 28 else if [4, 6, 9, 11].contains month then 30 else 31

theorem leastDays_le_daysInMonth (year : Int) (month : Nat) : leastDays month ≤ daysInMonth year month := by
  unfold leastDays daysInMonth
  split
  · split <;> decide
  · exact Nat.le_refl _

theorem ofDayOfYear_day_le_leastDays : ∀ dayOfYear < 365,
    (ofDayOfYear 0 dayOfYear).day ≤ leastDays (ofDayOfYear 0 dayOfYear).month := by
  decide +kernel

/-- The day of the month is one of its days. The 366th day is one only if the year that begins in the course
    of these days is a leap year. -/
theorem ofDayOfYear_day_le (year : Int) {dayOfYear : Nat}
    (h : dayOfYear < 365 ∨ dayOfYear = 365 ∧ isLeapYear (year + 1) = true) :
    (ofDayOfYear year dayOfYear).day ≤
      daysInMonth (ofDayOfYear year dayOfYear).year (ofDayOfYear year dayOfYear).month := by
  rcases h with h | ⟨rfl, hleap⟩
  · exact Nat.le_trans (ofDayOfYear_day_le_leastDays dayOfYear h) (leastDays_le_daysInMonth _ _)
  · have hlength : daysInMonth (year + 1) 2 = 29 := by
      rw [daysInMonth, if_pos rfl, if_pos hleap]
    exact Nat.le_of_eq hlength.symm

/-- The first and the last day in range are the first of January and the last of December of their years. -/
theorem ofDayOfYear_year {days era : Int} {year dayOfYear : Nat} (hyear : year < 400)
    (hday : daysBeforeYear year + dayOfYear < daysBeforeYear (year + 1))
    (hdays : days + 719468 = era * 146097 + (daysBeforeYear year + dayOfYear : Nat))
    (hfirst : Timestamp.firstSecond ≤ days * 86400) (hlast : days * 86400 ≤ Timestamp.lastSecond) :
    firstYear ≤ (ofDayOfYear (era * 400 + year) dayOfYear).year ∧
      (ofDayOfYear (era * 400 + year) dayOfYear).year ≤ lastYear := by
  unfold Timestamp.firstSecond at hfirst
  unfold Timestamp.lastSecond at hlast
  -- in years from March on, the range goes from day 306 of the year 256 of era -656 to day 305 of the
  -- year 142 of era 655
  have hera : -656 ≤ era ∧ era ≤ 655 := by
    have hera := daysBeforeYear_mono (show year + 1 ≤ 400 from hyear)
    have hlength : daysBeforeYear 400 = 146097 := rfl
    omega
  have hlow : -656 < era ∨ 256 < year ∨ year = 256 ∧ 306 ≤ dayOfYear := by
    have hlength : daysBeforeYear 256 = 93502 := rfl
    rcases Nat.lt_trichotomy year 256 with hless | rfl | hmore
    · have hnext := daysBeforeYear_mono (show year + 1 ≤ 256 from hless)
      omega
    · omega
    · omega
  have hhigh : era < 655 ∨ year < 142 ∨ year = 142 ∧ dayOfYear < 306 := by
    have hlength : daysBeforeYear 142 = 51864 ∧ daysBeforeYear 143 = 52229 := ⟨rfl, rfl⟩
    rcases Nat.lt_trichotomy year 142 with hless | rfl | hmore
    · omega
    · omega
    · have hnext := daysBeforeYear_mono (show 143 ≤ year from hmore)
      omega
  have hlength := dayOfYear_lt hday
  simp only [ofDayOfYear, firstYear, lastYear]
  split
  · omega
  · omega

/-- A day whose seconds are in range has a date of the calendar. -/
theorem ofParts?_ofDays {days : Int} (hfirst : Timestamp.firstSecond ≤ days * 86400)
    (hlast : days * 86400 ≤ Timestamp.lastSecond) :
    ofParts? (ofDays days).year (ofDays days).month (ofDays days).day = some (ofDays days) := by
  obtain ⟨era, year, dayOfYear, hyear, hday, hdays, hdate⟩ := ofDays_eq days
  have hlength : dayOfYear < 365 ∨ dayOfYear = 365 ∧ isLeapYear (era * 400 + year + 1) = true := by
    rw [isLeapYear_iff]
    unfold daysBeforeYear at hday
    omega
  obtain ⟨hmonth, hmonth', -⟩ := ofDayOfYear_month (era * 400 + year) (dayOfYear_lt hday)
  obtain ⟨hyears, hyears'⟩ := ofDayOfYear_year hyear hday hdays hfirst hlast
  have hsize := ofDayOfYear_day_le (era * 400 + year) hlength
  have hone : 1 ≤ (ofDayOfYear (era * 400 + year) dayOfYear).day := Nat.le_add_left _ _
  rw [hdate]
  exact if_pos ⟨hyears, hyears', hmonth, hmonth', hone, hsize⟩

end PullRequestBot.Date
