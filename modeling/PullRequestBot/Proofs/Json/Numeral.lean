import PullRequestBot.Json.Reader
import PullRequestBot.Proofs.Text.Digits

set_option autoImplicit false

/-! # Numbers as they are written

A number is written as a row of digits, perhaps with a minus in front, a fraction behind it, and a power of
ten at the end. `Numeral.value?` is the value: an integer, if nothing stands behind the digits and they stay
below 2 ^ 64, or else a floating point number. The reader takes a numeral as far as it goes and finds its
value (`readNumber_numeral`), and it takes nothing but numerals (`exists_numeral`). -/

namespace PullRequestBot.Json

open Digit (splitSign)
open Text (NoDigit dropWhile_digits isDigit_takeWhile noDigit_cons noDigit_dropWhile noDigit_nil
  takeWhile_digits)

/-! ## Rows of digits -/

/-- A row of digits, at least one. -/
structure Digits where
  chars : List Char
  ne_nil : chars ≠ []
  isDigit : ∀ c ∈ chars, c.isDigit = true

/-- The number that a row of digits goes on to spell behind the given one. -/
def spelledFrom (start : Nat) (digits : List Char) : Nat :=
  digits.foldl (fun n c => n * 10 + digitValue c) start

/-- The number that a row of digits spells. -/
def Digits.value (digits : Digits) : Nat :=
  spelledFrom 0 digits.chars

/-! ## Significands -/

theorem readSignificand_noDigit {rest : List Char} (h : NoDigit rest) (significand count : Nat) :
    readSignificand significand count rest = (significand, count, rest) := by
  cases rest with
  | nil => rfl
  | cons c more => rw [readSignificand, if_neg (by rw [h c rfl]; nofun)]

/-- What follows a row of digits stays behind the digits that did not fit. -/
theorem readSignificand_append {digits rest : List Char} (hdigits : ∀ c ∈ digits, c.isDigit = true)
    (hrest : NoDigit rest) (significand count : Nat) :
    ∃ fuller kept left, readSignificand significand count digits = (fuller, kept, left) ∧
      readSignificand significand count (digits ++ rest) = (fuller, kept, left ++ rest) ∧
      (∀ c ∈ left, c.isDigit = true) ∧ kept + left.length = count + digits.length := by
  induction digits generalizing significand count with
  | nil =>
      exact ⟨significand, count, [], rfl, readSignificand_noDigit hrest significand count, nofun, rfl⟩
  | cons c digits ih =>
      obtain ⟨hc, hmore⟩ := List.forall_mem_cons.1 hdigits
      rw [List.cons_append, readSignificand, readSignificand, if_pos hc, if_pos hc]
      dsimp only
      split
      · obtain ⟨fuller, kept, left, hread, happend, hleft, hcount⟩ :=
          ih hmore (significand * 10 + digitValue c) (count + 1)
        exact ⟨fuller, kept, left, hread, happend, hleft, by rw [hcount, List.length_cons]; omega⟩
      · exact ⟨significand, count, c :: digits, rfl, rfl, hdigits, rfl⟩

theorem le_spelledFrom (digits : List Char) (start : Nat) : start ≤ spelledFrom start digits := by
  induction digits generalizing start with
  | nil => exact Nat.le_refl _
  | cons c digits ih =>
      have hnext : spelledFrom start (c :: digits) = spelledFrom (start * 10 + digitValue c) digits := rfl
      have hle := ih (start * 10 + digitValue c)
      omega

/-- Digits that spell a number below the bound all fit. -/
theorem readSignificand_fits {digits : List Char} (hdigits : ∀ c ∈ digits, c.isDigit = true)
    {start : Nat} (h : spelledFrom start digits < Word.bound 64) (count : Nat) :
    readSignificand start count digits = (spelledFrom start digits, count + digits.length, []) := by
  induction digits generalizing start count with
  | nil => rfl
  | cons c digits ih =>
      obtain ⟨hc, hmore⟩ := List.forall_mem_cons.1 hdigits
      have hnext : spelledFrom start (c :: digits) = spelledFrom (start * 10 + digitValue c) digits := rfl
      rw [hnext] at h ⊢
      have hbound := Nat.lt_of_le_of_lt (le_spelledFrom digits _) h
      rw [readSignificand, if_pos hc]
      dsimp only
      rw [if_pos hbound, ih hmore h, List.length_cons, Nat.add_assoc, Nat.add_comm 1]

/-- Digits that spell a number from the bound on do not all fit. -/
theorem readSignificand_overflows {digits : List Char} {start : Nat} (hstart : start < Word.bound 64)
    (h : Word.bound 64 ≤ spelledFrom start digits) (count : Nat) :
    (readSignificand start count digits).2.2 ≠ [] := by
  induction digits generalizing start count with
  | nil => exact absurd hstart (Nat.not_lt_of_le h)
  | cons c digits ih =>
      rw [readSignificand]
      dsimp only
      split
      · split
        · next hbound => exact ih hbound h (count + 1)
        · nofun
      · nofun

/-! ## Numerals -/

/-- The power of ten at the end of a number. -/
structure WrittenExponent where
  mark : Char
  isMark : mark = 'e' ∨ mark = 'E'
  /-- The sign, if there is one: whether it is a minus. -/
  minus? : Option Bool
  digits : Digits

/-- A number as it is written. -/
structure Numeral where
  minus : Bool
  whole : Digits
  /-- Of the rows that begin with a zero only the zero alone is in use. -/
  no_leading_zero : whole.chars.head? = some '0' → whole.chars = ['0']
  fraction? : Option Digits
  exponent? : Option WrittenExponent

namespace WrittenExponent

/-- A sign as it is written. -/
def signChars : Option Bool → List Char
  | none => []
  | some false => ['+']
  | some true => ['-']

/-- What follows the mark. -/
def tail (exponent : WrittenExponent) : List Char :=
  signChars exponent.minus? ++ exponent.digits.chars

/-- The power. -/
def power (exponent : WrittenExponent) : Int :=
  if exponent.minus?.getD false then -exponent.digits.value else exponent.digits.value

end WrittenExponent

/-- A power of ten as it is written, if there is one. -/
def markedChars (exponent? : Option WrittenExponent) : List Char :=
  exponent?.elim [] fun written => written.mark :: written.tail

namespace Numeral

/-- The digits behind the point. -/
def fractionDigits (numeral : Numeral) : List Char :=
  numeral.fraction?.elim [] Digits.chars

/-- The power of ten. -/
def power (numeral : Numeral) : Int :=
  numeral.exponent?.elim 0 WrittenExponent.power

/-- The power of ten as it is written. -/
def exponentChars (numeral : Numeral) : List Char :=
  markedChars numeral.exponent?

/-- What is written behind the whole part. -/
def ending (numeral : Numeral) : List Char :=
  numeral.fraction?.elim [] (fun digits => '.' :: digits.chars) ++ numeral.exponentChars

/-- The number without its sign. -/
def unsigned (numeral : Numeral) : List Char :=
  numeral.whole.chars ++ numeral.ending

/-- The number. -/
def chars (numeral : Numeral) : List Char :=
  if numeral.minus then '-' :: numeral.unsigned else numeral.unsigned

/-- The floating point number: the digits that fit into 64 bits are rounded once and scaled by a power of
    ten. None beyond the largest one. -/
def float? (numeral : Numeral) : Option Json :=
  let (whole, _, dropped) := readSignificand 0 0 numeral.whole.chars
  let (significand, kept, _) := readSignificand whole 0 numeral.fractionDigits
  floatOf numeral.minus significand (dropped.length - kept + numeral.power)

/-- The value: an integer, if there are only digits and they spell a number that fits into 64 bits. -/
def value? (numeral : Numeral) : Option Json :=
  match numeral.fraction?, numeral.exponent? with
  | none, none =>
    if numeral.whole.value < Word.bound 64 then some (integerOf numeral.minus numeral.whole.value)
    else numeral.float?
  | _, _ => numeral.float?

/-- A text that does not make the number longer. -/
def Stops (numeral : Numeral) (rest : List Char) : Prop :=
  ∀ c ∈ rest.head?, c.isDigit = false ∧
    (numeral.exponent? = none → c ≠ 'e' ∧ c ≠ 'E' ∧ (numeral.fraction? = none → c ≠ '.'))

theorem Stops.noDigit {numeral : Numeral} {rest : List Char} (h : numeral.Stops rest) : NoDigit rest :=
  fun c hc => (h c hc).1

end Numeral

/-! ## Numerals are read as far as they go -/

section Reading

variable {minus : Bool} {significand : Nat} {exponent : Int} {rest : List Char}

/-- A power of ten is read after its sign. -/
def readPower (minus : Bool) (significand : Nat) (exponent : Int) (sign : Bool × List Char) :
    Option (Json × List Char) :=
  let written := sign.2.takeWhile Char.isDigit
  if written.isEmpty then none
  else
    let size : Int := written.foldl (fun n c => n * 10 + digitValue c) 0
    let total := if sign.1 then exponent - size else exponent + size
    (floatOf minus significand total).map fun n => (n, sign.2.dropWhile Char.isDigit)

theorem readExponent_eq (cs : List Char) :
    readExponent minus significand exponent cs = readPower minus significand exponent (splitSign cs) :=
  rfl

theorem splitSign_of_isDigit {c : Char} (h : c.isDigit = true) (more : List Char) :
    splitSign (c :: more) = (false, c :: more) := by
  unfold splitSign
  split
  · next heq => exact absurd ((List.cons.inj heq).1 ▸ h) nofun
  · next heq => exact absurd ((List.cons.inj heq).1 ▸ h) nofun
  · rfl

theorem splitSign_tail (written : WrittenExponent) (rest : List Char) :
    splitSign (written.tail ++ rest) = (written.minus?.getD false, written.digits.chars ++ rest) := by
  obtain ⟨mark, isMark, minus?, ⟨digits, hne, hdigits⟩⟩ := written
  rcases minus? with _ | _ | _
  · obtain ⟨c, more, rfl⟩ := List.exists_cons_of_ne_nil hne
    exact splitSign_of_isDigit (hdigits c List.mem_cons_self) (more ++ rest)
  · rfl
  · rfl

theorem exists_sign (cs : List Char) :
    ∃ minus?, cs = WrittenExponent.signChars minus? ++ (splitSign cs).2 := by
  unfold splitSign
  split
  · exact ⟨some false, rfl⟩
  · exact ⟨some true, rfl⟩
  · exact ⟨none, rfl⟩

theorem foldl_digitValue (digits : List Char) (start : Nat) :
    digits.foldl (fun (n : Int) c => n * 10 + digitValue c) start = spelledFrom start digits := by
  induction digits generalizing start with
  | nil => rfl
  | cons c digits ih =>
      have hnext : ((start : Int) * 10 + digitValue c) = ((start * 10 + digitValue c : Nat) : Int) := by
        omega
      rw [List.foldl_cons, hnext, ih]
      rfl

theorem readExponent_tail (written : WrittenExponent) (hrest : NoDigit rest) :
    readExponent minus significand exponent (written.tail ++ rest) =
      (floatOf minus significand (exponent + written.power)).map fun n => (n, rest) := by
  have hdigits := written.digits.isDigit
  have hempty : written.digits.chars.isEmpty = false := List.isEmpty_eq_false_iff.2 written.digits.ne_nil
  have hsize : written.digits.chars.foldl (fun (n : Int) c => n * 10 + digitValue c) 0 =
      written.digits.value := foldl_digitValue written.digits.chars 0
  rw [readExponent_eq, splitSign_tail, readPower]
  dsimp only
  rw [takeWhile_digits hdigits hrest, dropWhile_digits hdigits hrest, hempty, if_neg nofun, hsize,
    WrittenExponent.power]
  split
  · rfl
  · rfl

/-- Where a power of ten is read, one is written. -/
theorem exists_exponent {cs : List Char} {read : Json × List Char} {mark : Char}
    (isMark : mark = 'e' ∨ mark = 'E') (h : readExponent minus significand exponent cs = some read) :
    ∃ (written : WrittenExponent) (rest : List Char),
      written.mark = mark ∧ cs = written.tail ++ rest ∧ NoDigit rest := by
  obtain ⟨minus?, hsign⟩ := exists_sign cs
  rw [readExponent_eq, readPower] at h
  have hne : (splitSign cs).2.takeWhile Char.isDigit ≠ [] := by
    intro hnil
    rw [hnil] at h
    exact absurd h nofun
  refine ⟨⟨mark, isMark, minus?, ⟨_, hne, isDigit_takeWhile _⟩⟩,
    (splitSign cs).2.dropWhile Char.isDigit, rfl, ?_, noDigit_dropWhile _⟩
  rw [WrittenExponent.tail, List.append_assoc, List.takeWhile_append_dropWhile, ← hsign]

/-- Behind a fraction the number ends, or a power of ten follows. -/
theorem readFloatEnd_stop (he : rest.head? ≠ some 'e') (hE : rest.head? ≠ some 'E') :
    readFloatEnd minus significand exponent rest =
      (floatOf minus significand exponent).map fun n => (n, rest) := by
  unfold readFloatEnd
  split
  · exact absurd rfl he
  · exact absurd rfl hE
  · rfl

theorem readFraction_digits (digits : Digits) (hrest : NoDigit rest) :
    readFraction minus significand exponent (digits.chars ++ rest) =
      readFloatEnd minus (readSignificand significand 0 digits.chars).1
        (exponent - (readSignificand significand 0 digits.chars).2.1) rest := by
  obtain ⟨fuller, kept, left, hread, happend, hleft, hcount⟩ :=
    readSignificand_append digits.isDigit hrest significand 0
  rw [readFraction, happend, hread]
  dsimp only
  rw [dropWhile_digits hleft hrest, if_neg]
  rintro ⟨hkept, hlength⟩
  have hpos := List.length_pos_iff.2 digits.ne_nil
  rw [List.length_append] at hlength
  omega

/-- Where a fraction is read, one is written. -/
theorem exists_fraction {cs : List Char} {read : Json × List Char}
    (h : readFraction minus significand exponent cs = some read) :
    ∃ (digits : Digits) (rest : List Char), cs = digits.chars ++ rest ∧ NoDigit rest := by
  have hne : cs.takeWhile Char.isDigit ≠ [] := by
    intro hnil
    have hrest : NoDigit cs := by
      have hcs := List.takeWhile_append_dropWhile (p := Char.isDigit) (l := cs)
      rw [hnil, List.nil_append] at hcs
      rw [← hcs]
      exact noDigit_dropWhile cs
    have hdrop : cs.dropWhile Char.isDigit = cs := @dropWhile_digits [] cs nofun hrest
    rw [readFraction, readSignificand_noDigit hrest] at h
    dsimp only at h
    rw [hdrop, if_pos ⟨rfl, rfl⟩] at h
    exact absurd h nofun
  exact ⟨⟨_, hne, isDigit_takeWhile cs⟩, cs.dropWhile Char.isDigit,
    List.takeWhile_append_dropWhile.symm, noDigit_dropWhile cs⟩

/-- The digits in front are read: those that fit, and the rest. -/
def readWhole (cs : List Char) : Option (Nat × Nat × List Char) :=
  match cs with
  | '0' :: rest =>
    match rest with
    | c :: _ => if c.isDigit then none else some (0, 0, rest)
    | [] => some (0, 0, rest)
  | c :: _ => if c.isDigit then some (readSignificand 0 0 cs) else none
  | [] => none

/-- What is read behind the whole part of a number, some of whose digits did not fit. -/
def readAfterWhole (minus : Bool) (significand dropped : Nat) (cs : List Char) :
    Option (Json × List Char) :=
  match cs with
  | '.' :: after => readFraction minus significand dropped after
  | 'e' :: after | 'E' :: after => readExponent minus significand dropped after
  | after =>
    if dropped = 0 then some (integerOf minus significand, after)
    else (floatOf minus significand dropped).map fun n => (n, after)

theorem readNumber_eq (cs : List Char) :
    readNumber minus cs = (readWhole cs).bind fun read =>
      readAfterWhole minus read.1 (read.2.2.takeWhile Char.isDigit).length
        (read.2.2.dropWhile Char.isDigit) :=
  rfl

theorem readWhole_zero (hrest : NoDigit rest) : readWhole ('0' :: rest) = some (0, 0, rest) := by
  cases rest with
  | nil => rfl
  | cons c more => exact if_neg (by rw [hrest c rfl]; nofun)

theorem readWhole_cons {c : Char} (hzero : c ≠ '0') (hdigit : c.isDigit = true) (more : List Char) :
    readWhole (c :: more) = some (readSignificand 0 0 (c :: more)) := by
  unfold readWhole
  split
  · next heq => exact absurd (List.cons.inj heq).1 hzero
  · next heq =>
      obtain ⟨rfl, rfl⟩ := List.cons.inj heq
      exact if_pos hdigit
  · next heq => exact absurd heq nofun

theorem readNumber_whole {whole : Digits} (hzero : whole.chars.head? = some '0' → whole.chars = ['0'])
    (hrest : NoDigit rest) :
    readNumber minus (whole.chars ++ rest) =
      readAfterWhole minus (readSignificand 0 0 whole.chars).1
        (readSignificand 0 0 whole.chars).2.2.length rest := by
  obtain ⟨significand, count, left, hread, happend, hleft, -⟩ :=
    readSignificand_append whole.isDigit hrest 0 0
  have hwhole : ∃ count', readWhole (whole.chars ++ rest) = some (significand, count', left ++ rest) := by
    obtain ⟨c, more, hchars⟩ := List.exists_cons_of_ne_nil whole.ne_nil
    by_cases hc : c = '0'
    · rw [hchars, List.head?_cons] at hzero
      obtain ⟨rfl, rfl⟩ := List.cons.inj (hzero (congrArg some hc))
      rw [hchars] at hread ⊢
      -- one zero fits
      obtain ⟨rfl, -, rfl⟩ : 0 = significand ∧ 1 = count ∧ [] = left := by
        simpa [readSignificand, Word.bound, digitValue] using hread
      exact ⟨0, readWhole_zero hrest⟩
    · have hdigit : c.isDigit = true := whole.isDigit c (hchars ▸ List.mem_cons_self)
      rw [hchars] at happend ⊢
      exact ⟨count, (readWhole_cons hc hdigit (more ++ rest)).trans (congrArg some happend)⟩
  obtain ⟨count', hwhole⟩ := hwhole
  rw [readNumber_eq, hwhole, hread]
  dsimp only [Option.bind_some]
  rw [takeWhile_digits hleft hrest, dropWhile_digits hleft hrest]

theorem noDigit_of_readWhole {read : Nat × Nat × List Char} (h : readWhole ('0' :: rest) = some read) :
    NoDigit rest := by
  cases rest with
  | nil => exact noDigit_nil
  | cons c more =>
      refine noDigit_cons ?_ more
      cases hc : c.isDigit with
      | false => rfl
      | true => exact absurd ((if_pos hc).symm.trans h) nofun

/-- Where a number is read, digits are in front. -/
theorem exists_whole {cs : List Char} {read : Json × List Char} (h : readNumber minus cs = some read) :
    ∃ (whole : Digits) (rest : List Char), (whole.chars.head? = some '0' → whole.chars = ['0']) ∧
      cs = whole.chars ++ rest ∧ NoDigit rest := by
  obtain ⟨start, hstart, -⟩ := Option.bind_eq_some_iff.1 ((readNumber_eq cs).symm.trans h)
  cases cs with
  | nil => exact absurd hstart nofun
  | cons c more =>
      by_cases hzero : c = '0'
      · subst hzero
        exact ⟨⟨['0'], nofun, List.forall_mem_singleton.2 rfl⟩, more, fun _ => rfl, rfl, noDigit_of_readWhole hstart⟩
      · have hdigit : c.isDigit = true := by
          unfold readWhole at hstart
          split at hstart
          · next heq => exact absurd (List.cons.inj heq).1 hzero
          · next heq =>
              obtain ⟨rfl, rfl⟩ := List.cons.inj heq
              exact (Option.ite_none_right_eq_some.1 hstart).1
          · exact absurd hstart nofun
        have htake : (c :: more).takeWhile Char.isDigit = c :: more.takeWhile Char.isDigit :=
          List.takeWhile_cons_of_pos hdigit
        refine ⟨⟨(c :: more).takeWhile Char.isDigit, by rw [htake]; nofun, isDigit_takeWhile _⟩,
          (c :: more).dropWhile Char.isDigit, fun hhead => ?_, List.takeWhile_append_dropWhile.symm,
          noDigit_dropWhile _⟩
        exact absurd (Option.some.inj ((congrArg List.head? htake).symm.trans hhead)) hzero

/-! A power of ten follows the whole part or the fraction. -/

theorem noDigit_mark (written : WrittenExponent) (rest : List Char) : NoDigit (written.mark :: rest) := by
  refine noDigit_cons ?_ rest
  rcases written.isMark with hmark | hmark <;> rw [hmark] <;> rfl

theorem readAfterWhole_mark (written : WrittenExponent) (dropped : Nat) (cs : List Char) :
    readAfterWhole minus significand dropped (written.mark :: cs) =
      readExponent minus significand dropped cs := by
  rcases written.isMark with hmark | hmark <;> rw [hmark] <;> rfl

theorem readFloatEnd_mark (written : WrittenExponent) (cs : List Char) :
    readFloatEnd minus significand exponent (written.mark :: cs) =
      readExponent minus significand exponent cs := by
  rcases written.isMark with hmark | hmark <;> rw [hmark] <;> rfl

theorem readAfterWhole_stop (dropped : Nat) (he : rest.head? ≠ some 'e') (hE : rest.head? ≠ some 'E')
    (hpoint : rest.head? ≠ some '.') :
    readAfterWhole minus significand dropped rest =
      if dropped = 0 then some (integerOf minus significand, rest)
      else (floatOf minus significand dropped).map fun n => (n, rest) := by
  unfold readAfterWhole
  split
  · exact absurd rfl hpoint
  · exact absurd rfl he
  · exact absurd rfl hE
  · rfl

end Reading

namespace Numeral

variable {numeral : Numeral} {rest : List Char}

theorem readNumber_unsigned (h : NoDigit (numeral.ending ++ rest)) :
    readNumber numeral.minus (numeral.unsigned ++ rest) =
      readAfterWhole numeral.minus (readSignificand 0 0 numeral.whole.chars).1
        (readSignificand 0 0 numeral.whole.chars).2.2.length (numeral.ending ++ rest) := by
  rw [unsigned, List.append_assoc, readNumber_whole numeral.no_leading_zero h]

theorem float?_of_no_fraction (h : numeral.fraction? = none) :
    numeral.float? = floatOf numeral.minus (readSignificand 0 0 numeral.whole.chars).1
      ((readSignificand 0 0 numeral.whole.chars).2.2.length + numeral.power) := by
  rw [float?, fractionDigits, h]
  exact congrArg (fun dropped => floatOf _ _ (dropped + _)) (Int.sub_zero _)

theorem float?_of_fraction {digits : Digits} (h : numeral.fraction? = some digits) :
    numeral.float? =
      let whole := readSignificand 0 0 numeral.whole.chars
      let fuller := readSignificand whole.1 0 digits.chars
      floatOf numeral.minus fuller.1 (whole.2.2.length - fuller.2.1 + numeral.power) := by
  rw [float?, fractionDigits, h]
  rfl

theorem value?_of_written (h : numeral.fraction? ≠ none ∨ numeral.exponent? ≠ none) :
    numeral.value? = numeral.float? := by
  unfold value?
  split
  · next hfraction hexponent =>
      exact absurd h (not_or.2 ⟨not_not_intro hfraction, not_not_intro hexponent⟩)
  · rfl

theorem exponentChars_append_of_none (h : numeral.exponent? = none) :
    numeral.exponentChars ++ rest = rest := by
  rw [exponentChars, h]
  rfl

theorem exponentChars_append_of_some {written : WrittenExponent} (h : numeral.exponent? = some written) :
    numeral.exponentChars ++ rest = written.mark :: (written.tail ++ rest) := by
  rw [exponentChars, h]
  rfl

theorem ending_append_of_none (h : numeral.fraction? = none) :
    numeral.ending ++ rest = numeral.exponentChars ++ rest := by
  rw [ending, h]
  rfl

theorem ending_append_of_some {digits : Digits} (h : numeral.fraction? = some digits) :
    numeral.ending ++ rest = '.' :: (digits.chars ++ (numeral.exponentChars ++ rest)) := by
  rw [ending, h, List.append_assoc]
  rfl

theorem power_of_none (h : numeral.exponent? = none) : numeral.power = 0 := by
  rw [power, h]
  rfl

theorem power_of_some {written : WrittenExponent} (h : numeral.exponent? = some written) :
    numeral.power = written.power := by
  rw [power, h]
  rfl

/-- Nothing is written behind the digits. -/
theorem read_of_digits (hfraction : numeral.fraction? = none) (hexponent : numeral.exponent? = none)
    (hrest : numeral.Stops rest) :
    readNumber numeral.minus (numeral.unsigned ++ rest) = numeral.value?.map fun n => (n, rest) := by
  have hending : numeral.ending ++ rest = rest :=
    (ending_append_of_none hfraction).trans (exponentChars_append_of_none hexponent)
  have hstop : ∀ c ∈ rest.head?, c ≠ 'e' ∧ c ≠ 'E' ∧ c ≠ '.' := fun c hc =>
    have hc := (hrest c hc).2 hexponent
    ⟨hc.1, hc.2.1, hc.2.2 hfraction⟩
  rw [readNumber_unsigned (hending.symm ▸ hrest.noDigit), hending,
    readAfterWhole_stop _ (fun he => (hstop _ he).1 rfl) (fun hE => (hstop _ hE).2.1 rfl)
      (fun hpoint => (hstop _ hpoint).2.2 rfl), value?, hfraction, hexponent]
  dsimp only
  by_cases hfits : numeral.whole.value < Word.bound 64
  · rw [if_pos hfits, readSignificand_fits numeral.whole.isDigit hfits]
    rfl
  · have hleft := readSignificand_overflows (by decide) (Nat.le_of_not_lt hfits) 0
    rw [if_neg hfits, if_neg (fun hlength => hleft (List.length_eq_zero_iff.1 hlength)),
      float?_of_no_fraction hfraction, power_of_none hexponent, Int.add_zero]

/-- A power of ten is written behind the digits. -/
theorem read_of_exponent {written : WrittenExponent} (hfraction : numeral.fraction? = none)
    (hexponent : numeral.exponent? = some written) (hrest : NoDigit rest) :
    readNumber numeral.minus (numeral.unsigned ++ rest) = numeral.value?.map fun n => (n, rest) := by
  have hending : numeral.ending ++ rest = written.mark :: (written.tail ++ rest) :=
    (ending_append_of_none hfraction).trans (exponentChars_append_of_some hexponent)
  rw [readNumber_unsigned (hending.symm ▸ noDigit_mark written _), hending, readAfterWhole_mark,
    readExponent_tail written hrest, value?_of_written (Or.inr (by rw [hexponent]; nofun)),
    float?_of_no_fraction hfraction, power_of_some hexponent]

/-- A fraction is written behind the digits, and perhaps a power of ten behind it. -/
theorem read_of_fraction {digits : Digits} (hfraction : numeral.fraction? = some digits)
    (hrest : numeral.Stops rest) :
    readNumber numeral.minus (numeral.unsigned ++ rest) = numeral.value?.map fun n => (n, rest) := by
  have hending : numeral.ending ++ rest = '.' :: (digits.chars ++ (numeral.exponentChars ++ rest)) :=
    ending_append_of_some hfraction
  rw [readNumber_unsigned (hending.symm ▸ noDigit_cons rfl _), hending,
    value?_of_written (Or.inl (by rw [hfraction]; nofun)), float?_of_fraction hfraction]
  show readFraction _ _ _ _ = _
  dsimp only
  cases hexponent : numeral.exponent? with
  | none =>
      have hstop : ∀ c ∈ rest.head?, c ≠ 'e' ∧ c ≠ 'E' := fun c hc =>
        have hc := (hrest c hc).2 hexponent
        ⟨hc.1, hc.2.1⟩
      rw [exponentChars_append_of_none hexponent, readFraction_digits digits hrest.noDigit,
        readFloatEnd_stop (fun he => (hstop _ he).1 rfl) (fun hE => (hstop _ hE).2 rfl),
        power_of_none hexponent, Int.add_zero]
  | some written =>
      rw [exponentChars_append_of_some hexponent, readFraction_digits digits (noDigit_mark written _),
        readFloatEnd_mark, readExponent_tail written hrest.noDigit, power_of_some hexponent]

end Numeral

/-- **A numeral is read as far as it goes, and its value is found.** -/
theorem readNumber_numeral (numeral : Numeral) {rest : List Char} (hrest : numeral.Stops rest) :
    readNumber numeral.minus (numeral.unsigned ++ rest) = numeral.value?.map fun n => (n, rest) := by
  cases hfraction : numeral.fraction? with
  | some digits => exact Numeral.read_of_fraction hfraction hrest
  | none =>
      cases hexponent : numeral.exponent? with
      | none => exact Numeral.read_of_digits hfraction hexponent hrest
      | some written => exact Numeral.read_of_exponent hfraction hexponent hrest.noDigit

/-! ## Only numerals are read -/

section Scanned

variable {minus : Bool} {significand : Nat} {exponent : Int} {cs : List Char} {read : Json × List Char}

theorem exists_marked {mark : Char} {after : List Char} (isMark : mark = 'e' ∨ mark = 'E')
    (h : readExponent minus significand exponent after = some read) :
    ∃ (written : WrittenExponent) (rest : List Char),
      mark :: after = markedChars (some written) ++ rest ∧ NoDigit rest := by
  obtain ⟨written, rest, rfl, rfl, hrest⟩ := exists_exponent isMark h
  exact ⟨written, rest, rfl, hrest⟩

/-- What is read behind a fraction is a power of ten, or nothing is. -/
theorem exists_floatEnd (h : readFloatEnd minus significand exponent cs = some read) (hcs : NoDigit cs) :
    ∃ (exponent? : Option WrittenExponent) (rest : List Char), cs = markedChars exponent? ++ rest ∧
      ∀ c ∈ rest.head?, c.isDigit = false ∧ (exponent? = none → c ≠ 'e' ∧ c ≠ 'E') := by
  unfold readFloatEnd at h
  split at h
  · obtain ⟨written, rest, hmarked, hrest⟩ := exists_marked (Or.inl rfl) h
    exact ⟨some written, rest, hmarked, fun c hc => ⟨hrest c hc, nofun⟩⟩
  · obtain ⟨written, rest, hmarked, hrest⟩ := exists_marked (Or.inr rfl) h
    exact ⟨some written, rest, hmarked, fun c hc => ⟨hrest c hc, nofun⟩⟩
  · next hsmall hcapital =>
      refine ⟨none, cs, rfl, fun c hc => ⟨hcs c hc, fun _ => ?_⟩⟩
      obtain ⟨more, rfl⟩ := List.head?_eq_some_iff.1 hc
      exact ⟨fun he => hsmall more (he ▸ rfl), fun hE => hcapital more (hE ▸ rfl)⟩

/-- What is read behind the whole part is the ending of some numeral. -/
theorem exists_ending {dropped : Nat} (whole : Digits)
    (hzero : whole.chars.head? = some '0' → whole.chars = ['0'])
    (h : readAfterWhole minus significand dropped cs = some read) (hcs : NoDigit cs) :
    ∃ (numeral : Numeral) (rest : List Char), numeral.minus = minus ∧ numeral.whole = whole ∧
      cs = numeral.ending ++ rest ∧ numeral.Stops rest := by
  unfold readAfterWhole at h
  split at h
  · next after =>
      obtain ⟨digits, tail, rfl, htail⟩ := exists_fraction h
      rw [readFraction_digits digits htail] at h
      obtain ⟨exponent?, rest, rfl, hrest⟩ := exists_floatEnd h htail
      have hending :=
        @Numeral.ending_append_of_some ⟨minus, whole, hzero, some digits, exponent?⟩ rest digits rfl
      refine ⟨⟨minus, whole, hzero, some digits, exponent?⟩, rest, rfl, rfl, hending.symm, fun c hc =>
        ⟨(hrest c hc).1, fun hnone => ?_⟩⟩
      obtain ⟨he, hE⟩ := (hrest c hc).2 hnone
      exact ⟨he, hE, nofun⟩
  · obtain ⟨written, rest, hmarked, hrest⟩ := exists_marked (Or.inl rfl) h
    exact ⟨⟨minus, whole, hzero, none, some written⟩, rest, rfl, rfl, hmarked,
      fun c hc => ⟨hrest c hc, nofun⟩⟩
  · obtain ⟨written, rest, hmarked, hrest⟩ := exists_marked (Or.inr rfl) h
    exact ⟨⟨minus, whole, hzero, none, some written⟩, rest, rfl, rfl, hmarked,
      fun c hc => ⟨hrest c hc, nofun⟩⟩
  · next hpoint hsmall hcapital =>
      refine ⟨⟨minus, whole, hzero, none, none⟩, cs, rfl, rfl, rfl, fun c hc =>
        ⟨hcs c hc, fun _ => ?_⟩⟩
      obtain ⟨more, rfl⟩ := List.head?_eq_some_iff.1 hc
      exact ⟨fun he => hsmall more (he ▸ rfl), fun hE => hcapital more (hE ▸ rfl),
        fun _ hdot => hpoint more (hdot ▸ rfl)⟩

end Scanned

/-- **Only numerals are read as numbers.** -/
theorem exists_numeral {minus : Bool} {cs left : List Char} {value : Json}
    (h : readNumber minus cs = some (value, left)) :
    ∃ numeral : Numeral, numeral.minus = minus ∧ cs = numeral.unsigned ++ left ∧
      numeral.value? = some value := by
  obtain ⟨whole, tail, hzero, rfl, htail⟩ := exists_whole h
  have hafter := (readNumber_whole hzero htail).symm.trans h
  obtain ⟨numeral, rest, rfl, rfl, rfl, hrest⟩ := exists_ending whole hzero hafter htail
  have hread := readNumber_numeral numeral hrest
  rw [Numeral.unsigned, List.append_assoc, h] at hread
  obtain ⟨value', hvalue, heq⟩ := Option.map_eq_some_iff.1 hread.symm
  obtain ⟨rfl, rfl⟩ := Prod.mk.inj heq
  exact ⟨numeral, rfl, by rw [Numeral.unsigned, List.append_assoc], hvalue⟩

/-! ## Kinds of numbers -/

namespace Numeral

variable {numeral : Numeral}

end Numeral

end PullRequestBot.Json
