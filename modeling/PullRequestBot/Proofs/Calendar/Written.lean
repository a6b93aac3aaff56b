import PullRequestBot.Calendar.Printer
import PullRequestBot.Calendar.Reader
import PullRequestBot.Proofs.Calendar.Days
import PullRequestBot.Proofs.Result
import PullRequestBot.Proofs.Text.Digits

set_option autoImplicit false

/-! # Written timestamps are read back

A point in time is read from its text if it is in range and a leap second stands at the end of a minute
(`read_text`), and no other is ever read (`tells_of_read`). The text is read from left to right, one lemma
for each of its parts. -/

namespace PullRequestBot

open Text (NoDigit isBlank noDigit_cons takeWhile_digits trimStart)
open Result (bind_eq_ok map_eq_ok)

/-! ## Padded numbers -/

theorem paddedNumber_isDigit {width n : Nat} : ∀ c ∈ paddedNumber width n, c.isDigit = true := by
  intro c hc
  rcases List.mem_append.1 hc with hzero | hdigit
  · rw [List.eq_of_mem_replicate hzero]
    rfl
  · exact Nat.isDigit_of_mem_toDigits (by decide) (by decide) hdigit

theorem paddedNumber_eq_cons (width n : Nat) :
    ∃ c more, paddedNumber width n = c :: more ∧ c.isDigit = true := by
  cases hchars : paddedNumber width n with
  | nil => exact absurd (List.append_eq_nil_iff.1 hchars).2 Nat.toDigits_ne_nil
  | cons c more => exact ⟨c, more, rfl, paddedNumber_isDigit c (hchars ▸ List.mem_cons_self)⟩

theorem length_paddedNumber {width n : Nat} (hwidth : 0 < width) (h : n < Nat.pow 10 width) :
    (paddedNumber width n).length = width := by
  have hdigits := (Nat.length_toDigits_le_iff (by decide) hwidth).2 h
  rw [paddedNumber, List.length_append, List.length_replicate]
  omega

theorem ofDigitChars_paddedNumber (width n : Nat) : Nat.ofDigitChars 10 (paddedNumber width n) 0 = n := by
  rw [paddedNumber, Nat.ofDigitChars_append, Nat.ofDigitChars_replicate_zero, Nat.mul_zero]
  exact Nat.ofDigitChars_toDigits (by decide) (by decide)

namespace Timestamp

/-! ## Numbers -/

/-- As many digits as there is room for are read as their number. -/
theorem readDigits_append {room : Nat} {digits rest : List Char} (hne : digits ≠ [])
    (hdigits : ∀ c ∈ digits, c.isDigit = true) (hroom : digits.length ≤ room) (hrest : NoDigit rest)
    (hbound : Nat.ofDigitChars 10 digits 0 < Word.bound 63) :
    readDigits room (digits ++ rest) = .ok (Nat.ofDigitChars 10 digits 0, rest) := by
  obtain ⟨c, more, rfl⟩ := List.exists_cons_of_ne_nil hne
  have htaken : ((c :: more ++ rest).take room).takeWhile Char.isDigit = c :: more := by
    rw [List.take_append, List.take_of_length_le hroom]
    exact takeWhile_digits hdigits (hrest.take _)
  have hvalue : (c :: more).foldl (fun n d => n * 10 + (d.toNat - '0'.toNat)) 0 =
      Nat.ofDigitChars 10 (c :: more) 0 := by
    simp only [Nat.ofDigitChars, Nat.mul_comm 10]
  have hholds : Word.holds 64 (Nat.ofDigitChars 10 (c :: more) 0 : Nat) = true :=
    (Word.holds_iff _ _).2 ⟨by omega, Int.ofNat_lt.2 hbound⟩
  rw [List.cons_append] at htaken ⊢
  rw [readDigits, if_pos (hdigits c List.mem_cons_self)]
  simp only [htaken, hvalue, hholds, if_true]
  rw [← List.cons_append, List.drop_left]

theorem readDigits_paddedNumber {width room n : Nat} {rest : List Char}
    (hroom : (paddedNumber width n).length ≤ room) (hrest : NoDigit rest) (hbound : n < Word.bound 63) :
    readDigits room (paddedNumber width n ++ rest) = .ok (n, rest) := by
  obtain ⟨c, more, hchars, -⟩ := paddedNumber_eq_cons width n
  have hne : paddedNumber width n ≠ [] := hchars ▸ List.cons_ne_nil c more
  have hvalue := ofDigitChars_paddedNumber width n
  have hread := readDigits_append hne paddedNumber_isDigit hroom hrest (by rwa [hvalue])
  rwa [hvalue] at hread

theorem isBlank_of_isDigit {c : Char} (h : c.isDigit = true) : isBlank c = false := by
  obtain ⟨hlow, hhigh⟩ : 48 ≤ c.toNat ∧ c.toNat ≤ 57 := Char.isDigit_iff_toNat.1 h
  unfold isBlank
  generalize c.toNat = n at hlow hhigh
  simp
  omega

theorem trimStart_cons {c : Char} (h : isBlank c = false) (rest : List Char) :
    trimStart (c :: rest) = c :: rest := by
  simp [trimStart, h]

theorem trimStart_paddedNumber (width n : Nat) (rest : List Char) :
    trimStart (paddedNumber width n ++ rest) = paddedNumber width n ++ rest := by
  obtain ⟨c, more, hchars, hdigit⟩ := paddedNumber_eq_cons width n
  rw [hchars]
  exact trimStart_cons (isBlank_of_isDigit hdigit) _

/-! ## Parts of a text -/

theorem readSmall_paddedNumber {low high n : Nat} {rest : List Char} (hlow : low ≤ n) (hhigh : n ≤ high)
    (hn : n < 100) (hrest : NoDigit rest) :
    readSmall low high (paddedNumber 2 n ++ rest) = .ok (n, rest) := by
  have hread : readDigits 2 (paddedNumber 2 n ++ rest) = .ok (n, rest) :=
    readDigits_paddedNumber (Nat.le_of_eq (length_paddedNumber (by decide) hn)) hrest
      (Nat.lt_trans hn (by decide))
  rw [readSmall, trimStart_paddedNumber, hread]
  exact if_pos ⟨hlow, hhigh⟩

theorem passMark_cons {mark : Char} (h : isBlank mark = false) (rest : List Char) :
    passMark mark (mark :: rest) = .ok rest := by
  rw [passMark, trimStart_cons h]
  exact if_pos rfl

/-- The bounds of a year fit into its word. -/
theorem holds_year {year : Int} (hfirst : Date.firstYear ≤ year) (hlast : year ≤ Date.lastYear) :
    Word.holds 32 year = true := by
  have hbound : (Word.bound (32 - 1) : Int) = 2147483648 := rfl
  unfold Date.firstYear at hfirst
  unfold Date.lastYear at hlast
  exact (Word.holds_iff _ _).2 ⟨by omega, by omega⟩

/-- A year of four digits. -/
theorem readYear_paddedNumber {n : Nat} {rest : List Char} (hn : n < 10000) (hrest : NoDigit rest) :
    readYear (paddedNumber 4 n ++ rest) = .ok (n, rest) := by
  have hread : readDigits 4 (paddedNumber 4 n ++ rest) = .ok (n, rest) :=
    readDigits_paddedNumber (Nat.le_of_eq (length_paddedNumber (by decide) hn)) hrest
      (Nat.lt_trans hn (by decide))
  have hword : Word.holds 32 (n : Int) = true :=
    holds_year (by unfold Date.firstYear; omega) (by unfold Date.lastYear; omega)
  obtain ⟨c, more, hchars, hdigit⟩ := paddedNumber_eq_cons 4 n
  rw [readYear, trimStart_paddedNumber]
  rw [hchars, List.cons_append] at hread ⊢
  split
  · next heq =>
      -- a digit is no sign
      rw [(List.cons.inj heq).1] at hdigit
      exact absurd hdigit (by decide)
  · next heq =>
      rw [(List.cons.inj heq).1] at hdigit
      exact absurd hdigit (by decide)
  · simp only [hread, Except.map, bind, Except.bind, hword, if_true]

/-- A year is read, behind its sign if it has not four digits. -/
theorem readYear_yearChars {year : Int} {rest : List Char} (hfirst : Date.firstYear ≤ year)
    (hlast : year ≤ Date.lastYear) (hrest : NoDigit rest) :
    readYear (yearChars year ++ rest) = .ok (year, rest) := by
  have hword := holds_year hfirst hlast
  unfold yearChars
  split
  · next hfour =>
      obtain ⟨n, rfl⟩ := Int.eq_ofNat_of_zero_le hfour.1
      exact readYear_paddedNumber (by omega) hrest
  · have hbound : 262144 < Word.bound 63 := by decide
    unfold Date.firstYear at hfirst
    unfold Date.lastYear at hlast
    have hread : readDigits (paddedNumber 4 year.natAbs ++ rest).length (paddedNumber 4 year.natAbs ++ rest) =
        .ok (year.natAbs, rest) :=
      readDigits_paddedNumber (by simp) hrest (by omega)
    unfold readYear
    by_cases hnegative : year < 0
    · have hyear : -(year.natAbs : Int) = year := by omega
      rw [if_pos hnegative, List.cons_append, trimStart_cons (by decide)]
      simp only [hread, Except.map, hyear, bind, Except.bind, hword, if_true]
    · have hyear : (year.natAbs : Int) = year := by omega
      rw [if_neg hnegative, List.cons_append, trimStart_cons (by decide)]
      simp only [hread, Except.map, hyear, bind, Except.bind, hword, if_true]

/-- Digits of a fraction that stand for its first places. -/
theorem readFraction_paddedNumber {width n : Nat} (hwidth : 0 < width) (hnine : width ≤ 9)
    (hn : n < Nat.pow 10 width) :
    readFraction ('.' :: paddedNumber width n ++ ['Z']) = .ok (n * Nat.pow 10 (9 - width), ['Z']) := by
  have hlength := length_paddedNumber hwidth hn
  have hbound : n < Word.bound 63 :=
    Nat.lt_trans (Nat.lt_of_lt_of_le hn (Nat.pow_le_pow_right (by decide) hnine)) (by decide)
  have hread : readDigits 9 (paddedNumber width n ++ ['Z']) = .ok (n, ['Z']) :=
    readDigits_paddedNumber (Nat.le_trans (Nat.le_of_eq hlength) hnine) (noDigit_cons rfl []) hbound
  rw [List.cons_append, readFraction, hread]
  show Except.ok (n * Nat.pow 10 (9 - ((paddedNumber width n ++ ['Z']).length - 1)), ['Z']) = _
  rw [List.length_append, hlength]
  rfl

theorem noDigit_fractionChars (n : Nat) : NoDigit (fractionChars n ++ ['Z']) := by
  unfold fractionChars
  split
  · exact noDigit_cons rfl []
  · split
    · exact noDigit_cons rfl _
    · split
      · exact noDigit_cons rfl _
      · exact noDigit_cons rfl _

theorem readFraction_fractionChars {n : Nat} (h : n < nanosecondsPerSecond) :
    readFraction (fractionChars n ++ ['Z']) = .ok (n, ['Z']) := by
  unfold nanosecondsPerSecond at h
  unfold fractionChars
  split
  · next hzero =>
      subst hzero
      rfl
  · split
    · next hmillis =>
        have hlow : n / 1000000 < Nat.pow 10 3 := show n / 1000000 < 1000 by omega
        have hvalue : n / 1000000 * Nat.pow 10 (9 - 3) = n := show n / 1000000 * 1000000 = n by omega
        rw [readFraction_paddedNumber (by decide) (by decide) hlow, hvalue]
    · split
      · next hmicros =>
          have hlow : n / 1000 < Nat.pow 10 6 := show n / 1000 < 1000000 by omega
          have hvalue : n / 1000 * Nat.pow 10 (9 - 6) = n := show n / 1000 * 1000 = n by omega
          rw [readFraction_paddedNumber (by decide) (by decide) hlow, hvalue]
      · rw [readFraction_paddedNumber (by decide) (by decide) h]
        exact congrArg (fun m => Except.ok (m, ['Z'])) (Nat.mul_one n)

theorem readOffset_zulu : readOffset (trimStart ['Z']) = .ok (0, []) := by
  rfl

/-! ## Points in time -/

/-- A point in time that a calendar can tell: its date is in range, and only the last second of a minute is
    followed by a leap second. -/
structure Tells (t : Timestamp) : Prop where
  first : firstSecond ≤ t.seconds
  last : t.seconds ≤ lastSecond
  bound : t.nanoseconds < 2 * nanosecondsPerSecond
  leap : nanosecondsPerSecond ≤ t.nanoseconds → t.seconds % 60 = 59

theorem chars_text (t : Timestamp) :
    t.text.toList = yearChars t.date.year ++ '-' :: (paddedNumber 2 t.date.month ++
      '-' :: (paddedNumber 2 t.date.day ++ 'T' :: (paddedNumber 2 t.hour ++ ':' ::
        (paddedNumber 2 t.minute ++ ':' :: (paddedNumber 2 t.second ++
          (fractionChars t.fraction ++ ['Z'])))))) := by
  simp only [text, wholeChars, String.toList_ofList, List.append_assoc, List.cons_append]

/-- A point in time lies on its second of a day. -/
theorem seconds_eq (t : Timestamp) :
    t.seconds = t.seconds.fdiv 86400 * 86400 + t.secondOfDay ∧ t.secondOfDay < 86400 := by
  have hdays : t.seconds.fdiv 86400 = t.seconds / 86400 := Int.fdiv_eq_ediv_of_nonneg _ (by decide)
  have hrest : t.seconds.fmod 86400 = t.seconds % 86400 := Int.fmod_eq_emod_of_nonneg _ (by decide)
  rw [secondOfDay, hdays, hrest]
  omega

theorem ofParts?_date {t : Timestamp} (h : Tells t) :
    Date.ofParts? t.date.year t.date.month t.date.day = some t.date := by
  obtain ⟨hseconds, hday⟩ := t.seconds_eq
  have hfirst := h.first
  have hlast := h.last
  unfold firstSecond at hfirst
  unfold lastSecond at hlast
  exact Date.ofParts?_ofDays (by unfold firstSecond; omega) (by unfold lastSecond; omega)

/-- The time of day is put together from its parts; a leap second is shown as second 60. -/
theorem time_eq {t : Timestamp} (h : Tells t) : t.hour ≤ 23 ∧ t.minute ≤ 59 ∧ t.second ≤ 60 ∧
    t.secondOfDay = t.hour * 3600 + t.minute * 60 + (if t.second == 60 then 59 else t.second) ∧
    t.nanoseconds = (if t.second == 60 then nanosecondsPerSecond else 0) + t.fraction := by
  obtain ⟨hseconds, hlength⟩ := t.seconds_eq
  have hbound := h.bound
  have hleap := h.leap
  unfold hour minute second fraction
  unfold nanosecondsPerSecond at *
  by_cases hextra : 1000000000 ≤ t.nanoseconds
  · have hminute := hleap hextra
    have hshown : (t.secondOfDay % 60 + t.nanoseconds / 1000000000 == 60) = true := by
      rw [beq_iff_eq]
      omega
    simp only [hshown, if_true]
    omega
  · have hshown : (t.secondOfDay % 60 + t.nanoseconds / 1000000000 == 60) = false := by
      rw [beq_eq_false_iff_ne]
      omega
    simp only [hshown, Bool.false_eq_true, if_false]
    omega

/-- A point in time is read back from its text. -/
theorem read_text {t : Timestamp} (h : Tells t) : read t.text = .ok t := by
  have hdate := ofParts?_date h
  obtain ⟨⟨hfirst, hlast, hmonth, hmonth', hday, hday'⟩, -⟩ := Date.ofParts?_eq_some_iff.1 hdate
  obtain ⟨hhour, hminute, hsecond, htime, hnanoseconds⟩ := time_eq h
  have hyearRead (rest : List Char) : readYear (yearChars t.date.year ++ '-' :: rest) =
      .ok (t.date.year, '-' :: rest) := readYear_yearChars hfirst hlast (noDigit_cons rfl rest)
  have hmonthRead (rest : List Char) : readSmall 1 12 (paddedNumber 2 t.date.month ++ '-' :: rest) =
      .ok (t.date.month, '-' :: rest) :=
    readSmall_paddedNumber hmonth hmonth' (by omega) (noDigit_cons rfl rest)
  have hdayRead (rest : List Char) : readSmall 1 31 (paddedNumber 2 t.date.day ++ 'T' :: rest) =
      .ok (t.date.day, 'T' :: rest) :=
    have hlimit := Nat.le_trans hday' (Date.daysInMonth_le _ _)
    readSmall_paddedNumber hday hlimit (by omega) (noDigit_cons rfl rest)
  have hhourRead (rest : List Char) : readSmall 0 23 (paddedNumber 2 t.hour ++ ':' :: rest) =
      .ok (t.hour, ':' :: rest) :=
    readSmall_paddedNumber (Nat.zero_le _) hhour (by omega) (noDigit_cons rfl rest)
  have hminuteRead (rest : List Char) : readSmall 0 59 (paddedNumber 2 t.minute ++ ':' :: rest) =
      .ok (t.minute, ':' :: rest) :=
    readSmall_paddedNumber (Nat.zero_le _) hminute (by omega) (noDigit_cons rfl rest)
  have hsecondRead : readSmall 0 60 (paddedNumber 2 t.second ++ (fractionChars t.fraction ++ ['Z'])) =
      .ok (t.second, fractionChars t.fraction ++ ['Z']) :=
    readSmall_paddedNumber (Nat.zero_le _) hsecond (by omega) (noDigit_fractionChars t.fraction)
  have hfraction : readFraction (fractionChars t.fraction ++ ['Z']) = .ok (t.fraction, ['Z']) :=
    readFraction_fractionChars (Nat.mod_lt _ (by decide))
  have hdash (rest : List Char) : passMark '-' ('-' :: rest) = .ok rest := passMark_cons (by decide) rest
  have hcolon (rest : List Char) : passMark ':' (':' :: rest) = .ok rest := passMark_cons (by decide) rest
  have hseparator (rest : List Char) : passSeparator ('T' :: rest) = .ok rest := rfl
  simp only [read, chars_text, hyearRead, hdash, hmonthRead, hdayRead, hseparator, hhourRead, hcolon,
    hminuteRead, hsecondRead, hfraction, readOffset_zulu, hdate, bind, Except.bind]
  have hdays : t.date.toDays = t.seconds.fdiv 86400 := Date.toDays_ofDays _
  have hseconds : t.date.toDays * 86400 + t.hour * 3600 + t.minute * 60 +
      (if t.second == 60 then 59 else t.second : Nat) - 0 = t.seconds := by
    have hsplit := t.seconds_eq.1
    omega
  have hrange : ¬ (t.seconds < firstSecond ∨ lastSecond < t.seconds) := by
    have hlow := h.first
    have hhigh := h.last
    omega
  rw [if_neg (by decide), if_neg (by decide), hseconds, if_neg hrange, ← hnanoseconds]
  rfl

/-! ## What is read is a point in time that can be told -/

theorem ofDigitChars_lt {digits : List Char} (h : ∀ c ∈ digits, c.isDigit = true) (init : Nat) :
    Nat.ofDigitChars 10 digits init < (init + 1) * Nat.pow 10 digits.length := by
  show Nat.ofDigitChars 10 digits init < (init + 1) * 10 ^ digits.length
  induction digits generalizing init with
  | nil => simp [Nat.ofDigitChars]
  | cons c rest ih =>
      obtain ⟨hlow, hhigh⟩ : 48 ≤ c.toNat ∧ c.toNat ≤ 57 :=
        Char.isDigit_iff_toNat.1 (h c List.mem_cons_self)
      have hrest := ih (fun d hd => h d (List.mem_cons_of_mem _ hd)) (10 * init + (c.toNat - 48))
      calc Nat.ofDigitChars 10 (c :: rest) init
          = Nat.ofDigitChars 10 rest (10 * init + (c.toNat - 48)) := rfl
        _ < (10 * init + (c.toNat - 48) + 1) * 10 ^ rest.length := hrest
        _ ≤ (10 * (init + 1)) * 10 ^ rest.length := Nat.mul_le_mul_right _ (by omega)
        _ = (init + 1) * 10 ^ (c :: rest).length := by
            rw [List.length_cons, Nat.pow_succ', ← Nat.mul_assoc, Nat.mul_comm 10]

/-- Digits that are read are as many as there is room for at most. -/
theorem readDigits_ok {room value : Nat} {cs after : List Char} (h : readDigits room cs = .ok (value, after)) :
    ∃ digits, cs = digits ++ after ∧ digits.length ≤ room ∧ value < Nat.pow 10 digits.length := by
  cases cs with
  | nil => exact absurd h nofun
  | cons c more =>
      have hpre : ((c :: more).take room).takeWhile Char.isDigit <+: (c :: more).take room :=
        List.takeWhile_prefix _
      have hall : ∀ d ∈ ((c :: more).take room).takeWhile Char.isDigit, d.isDigit = true :=
        List.all_eq_true.1 List.all_takeWhile
      rw [readDigits] at h
      split at h
      · generalize ((c :: more).take room).takeWhile Char.isDigit = digits at h hpre hall
        dsimp only at h
        split at h
        · obtain ⟨rfl, rfl⟩ := Prod.mk.inj (Except.ok.inj h)
          refine ⟨digits, (List.prefix_iff_eq_append.1 (hpre.trans (List.take_prefix _ _))).symm, ?_, ?_⟩
          · exact Nat.le_trans hpre.length_le (List.length_take_le _ _)
          · have hlt := ofDigitChars_lt hall 0
            simpa only [Nat.ofDigitChars, Nat.mul_comm 10, Nat.zero_add, Nat.one_mul] using hlt
        · exact absurd h nofun
      · exact absurd h nofun

theorem readFraction_lt {n : Nat} {cs rest : List Char} (h : readFraction cs = .ok (n, rest)) :
    n < nanosecondsPerSecond := by
  unfold readFraction at h
  split at h
  · next after =>
      obtain ⟨⟨value, left⟩, hdigits, hread⟩ := bind_eq_ok.1 h
      obtain ⟨digits, rfl, hroom, hvalue⟩ := readDigits_ok hdigits
      obtain ⟨rfl, -⟩ := Prod.mk.inj (Except.ok.inj hread)
      have hwidth : (digits ++ left).length - left.length = digits.length := by
        rw [List.length_append, Nat.add_sub_cancel]
      calc value * 10 ^ (9 - ((digits ++ left).length - left.length))
          = value * 10 ^ (9 - digits.length) := by rw [hwidth]
        _ < 10 ^ digits.length * 10 ^ (9 - digits.length) :=
            Nat.mul_lt_mul_of_pos_right hvalue (Nat.pow_pos (by decide))
        _ = nanosecondsPerSecond := by
            rw [← Nat.pow_add, Nat.add_sub_cancel' hroom]
            rfl
  · obtain ⟨rfl, -⟩ := Prod.mk.inj (Except.ok.inj h)
    decide

theorem readHoursMinutes_mod {n : Nat} {cs rest : List Char} (h : readHoursMinutes cs = .ok (n, rest)) :
    n % 60 = 0 := by
  obtain ⟨⟨hours, after⟩, -, h⟩ := bind_eq_ok.1 h
  obtain ⟨⟨minutes, left⟩, -, h⟩ := bind_eq_ok.1 h
  obtain ⟨rfl, -⟩ := Prod.mk.inj (Except.ok.inj h)
  omega

/-- An offset is one of whole minutes. -/
theorem readOffset_mod {offset : Int} {cs rest : List Char} (h : readOffset cs = .ok (offset, rest)) :
    offset % 60 = 0 := by
  unfold readOffset at h
  split at h
  · obtain ⟨rfl, -⟩ := Prod.mk.inj (Except.ok.inj h)
    rfl
  · split at h
    · exact absurd h nofun
    · split at h
      · obtain ⟨rfl, -⟩ := Prod.mk.inj (Except.ok.inj h)
        rfl
      · split at h
        · obtain ⟨⟨n, after⟩, hread, hpair⟩ := map_eq_ok.1 h
          obtain ⟨rfl, -⟩ := Prod.mk.inj hpair
          have hminutes := readHoursMinutes_mod hread
          omega
        · split at h
          · obtain ⟨⟨n, after⟩, hread, hpair⟩ := map_eq_ok.1 h
            obtain ⟨rfl, -⟩ := Prod.mk.inj hpair
            have hminutes := readHoursMinutes_mod hread
            omega
          · exact absurd h nofun

/-- What is read can be told by a calendar. -/
theorem tells_of_read {text : String} {t : Timestamp} (h : read text = .ok t) : Tells t := by
  obtain ⟨⟨year, _⟩, -, h⟩ := bind_eq_ok.1 h
  obtain ⟨_, -, h⟩ := bind_eq_ok.1 h
  obtain ⟨⟨month, _⟩, -, h⟩ := bind_eq_ok.1 h
  obtain ⟨_, -, h⟩ := bind_eq_ok.1 h
  obtain ⟨⟨day, _⟩, -, h⟩ := bind_eq_ok.1 h
  obtain ⟨_, -, h⟩ := bind_eq_ok.1 h
  obtain ⟨⟨hour, _⟩, -, h⟩ := bind_eq_ok.1 h
  obtain ⟨_, -, h⟩ := bind_eq_ok.1 h
  obtain ⟨⟨minute, _⟩, -, h⟩ := bind_eq_ok.1 h
  obtain ⟨_, -, h⟩ := bind_eq_ok.1 h
  obtain ⟨⟨second, _⟩, -, h⟩ := bind_eq_ok.1 h
  obtain ⟨⟨nanoseconds, _⟩, hfraction, h⟩ := bind_eq_ok.1 h
  obtain ⟨⟨offset, rest⟩, hoffset, h⟩ := bind_eq_ok.1 h
  have hnanoseconds := readFraction_lt hfraction
  have hminutes := readOffset_mod hoffset
  have hleap : (if (second == 60) = true then nanosecondsPerSecond else 0) = 0 ∨
      (if (second == 60) = true then nanosecondsPerSecond else 0) = nanosecondsPerSecond ∧
        (if (second == 60) = true then 59 else second) = 59 := by
    split
    · exact Or.inr ⟨rfl, rfl⟩
    · exact Or.inl rfl
  dsimp only at h
  generalize (if (second == 60) = true then nanosecondsPerSecond else 0) = extra at h hleap
  generalize (if (second == 60) = true then 59 else second) = shown at h hleap
  split at h
  · exact absurd h nofun
  · split at h
    · exact absurd h nofun
    · split at h
      · exact absurd h nofun
      · split at h
        · exact absurd h nofun
        · next hrange =>
            obtain rfl := Except.ok.inj h
            obtain ⟨hfirst, hlast⟩ := not_or.1 hrange
            refine ⟨Int.not_lt.1 hfirst, Int.not_lt.1 hlast, ?_, fun hextra => ?_⟩
            · show extra + nanoseconds < 2 * nanosecondsPerSecond
              omega
            · dsimp only at hextra ⊢
              omega

end Timestamp

end PullRequestBot
