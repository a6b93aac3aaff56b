import Mathlib.Data.List.Infix
import PullRequestBot.Text.Boundary
import PullRequestBot.Web.Percent

set_option autoImplicit false

/-! # Escapes

An escape is a percent sign in front of two digits, and stands for one byte. A text without escapes stands
for its own bytes, and one with escapes for fewer (`Percent.decode_or_shorter`). Writing the characters that
may not stand in a path as escapes changes none of the bytes (`Percent.decode_encode`), and no escape
reaches over a slash (`Percent.decode_append_slash`). -/

namespace PullRequestBot

namespace Percent

open Text.Utf8 (encodeChars)

/-! ## Escapes -/

/-- Whether a text starts with two digits. -/
def startsWithDigits : List Char → Bool
  | a :: b :: _ => (Digit.value? 16 a).isSome && (Digit.value? 16 b).isSome
  | _ => false

/-- Whether a text starts with an escape. -/
def startsEscape : List Char → Bool
  | c :: rest => c = '%' && startsWithDigits rest
  | [] => false

/-- Whether an escape stands somewhere in a text. -/
def hasEscape (cs : List Char) : Bool :=
  cs.tails.any startsEscape

theorem hasEscape_cons (c : Char) (cs : List Char) :
    hasEscape (c :: cs) = (startsEscape (c :: cs) || hasEscape cs) := by
  simp [hasEscape]

theorem hasEscape_of_not_mem {cs : List Char} (h : '%' ∉ cs) : hasEscape cs = false := by
  induction cs with
  | nil => rfl
  | cons c cs ih =>
      rw [List.mem_cons, not_or] at h
      have hne : c ≠ '%' := fun heq => h.1 heq.symm
      rw [hasEscape_cons, ih h.2, startsEscape, decide_eq_false hne]
      rfl

theorem startsWithDigits_eq_true_iff {cs : List Char} : startsWithDigits cs = true ↔
    ∃ a b high low rest, cs = a :: b :: rest ∧ Digit.value? 16 a = some high ∧ Digit.value? 16 b = some low := by
  constructor
  · intro h
    match cs, h with
    | a :: b :: rest, h =>
      obtain ⟨ha, hb⟩ := Bool.and_eq_true_iff.1 h
      obtain ⟨high, ha⟩ := Option.isSome_iff_exists.1 ha
      obtain ⟨low, hb⟩ := Option.isSome_iff_exists.1 hb
      exact ⟨a, b, high, low, rest, rfl, ha, hb⟩
  · rintro ⟨a, b, high, low, rest, rfl, ha, hb⟩
    rw [startsWithDigits, ha, hb]
    rfl

theorem decode_escape {a b : Char} {high low : Nat} (ha : Digit.value? 16 a = some high)
    (hb : Digit.value? 16 b = some low) (rest : List Char) :
    decode ('%' :: a :: b :: rest) = UInt8.ofNat (high * 16 + low) :: decode rest := by
  rw [decode, ha, hb]

theorem decode_cons {c : Char} {rest : List Char} (h : startsEscape (c :: rest) = false) :
    decode (c :: rest) = String.utf8EncodeChar c ++ decode rest := by
  by_cases hc : c = '%'
  · subst hc
    match rest, h with
    | [], _ | [_], _ => rfl
    | a :: b :: rest, h =>
      rw [decode]
      split
      · next high low ha hb =>
        exact absurd h (by simp [startsEscape, startsWithDigits, ha, hb])
      · rfl
  · rw [decode.eq_def]
    split
    · next heq => exact absurd heq nofun
    · next heq => exact absurd (List.cons.inj heq).1 hc
    · next heq =>
      obtain ⟨rfl, rfl⟩ := List.cons.inj heq
      rfl

/-- What holds of the empty text, and of a text if it holds behind its first escape or character, holds of
    all texts. -/
@[elab_as_elim]
theorem escape_induction {motive : List Char → Prop} (nil : motive [])
    (escape : ∀ a b high low rest, Digit.value? 16 a = some high → Digit.value? 16 b = some low →
      motive rest → motive ('%' :: a :: b :: rest))
    (char : ∀ c rest, startsEscape (c :: rest) = false → motive rest → motive (c :: rest)) :
    ∀ cs, motive cs
  | [] => nil
  | c :: rest =>
    match h : startsEscape (c :: rest) with
    | false => char c rest h (escape_induction nil escape char rest)
    | true => by
        obtain ⟨hc, hdigits⟩ := Bool.and_eq_true_iff.1 h
        obtain rfl := of_decide_eq_true hc
        obtain ⟨a, b, high, low, later, rfl, ha, hb⟩ := startsWithDigits_eq_true_iff.1 hdigits
        exact escape a b high low later ha hb (escape_induction nil escape char later)
  termination_by cs => cs.length

/-- A text stands for its bytes, or has an escape and stands for fewer. -/
theorem decode_or_shorter (cs : List Char) :
    hasEscape cs = false ∧ decode cs = encodeChars cs ∨
      hasEscape cs = true ∧ (decode cs).length < (encodeChars cs).length := by
  induction cs using escape_induction with
  | nil => exact Or.inl ⟨rfl, rfl⟩
  | escape a b high low rest ha hb ih =>
      have hstart : startsEscape ('%' :: a :: b :: rest) = true := by
        simp [startsEscape, startsWithDigits, ha, hb]
      have hle : (decode rest).length ≤ (encodeChars rest).length := by
        rcases ih with ⟨-, hsame⟩ | ⟨-, hlt⟩
        · exact hsame ▸ Nat.le_refl _
        · exact Nat.le_of_lt hlt
      refine Or.inr ⟨by rw [hasEscape_cons, hstart, Bool.true_or], ?_⟩
      -- three characters stand for one byte
      have hfirst := Text.Utf8.length_encodeChar_pos '%'
      have ha' := Text.Utf8.length_encodeChar_pos a
      rw [decode_escape ha hb]
      simp only [Text.Utf8.encodeChars_cons, List.length_cons, List.length_append]
      omega
  | char c rest hstart ih =>
      rw [hasEscape_cons, hstart, Bool.false_or, decode_cons hstart, Text.Utf8.encodeChars_cons]
      rcases ih with ⟨hnone, hsame⟩ | ⟨hsome, hlt⟩
      · exact Or.inl ⟨hnone, by rw [hsame]⟩
      · refine Or.inr ⟨hsome, ?_⟩
        simp only [List.length_append]
        omega

theorem decode_of_not_hasEscape {cs : List Char} (h : hasEscape cs = false) : decode cs = encodeChars cs := by
  rcases decode_or_shorter cs with ⟨-, hsame⟩ | ⟨hsome, -⟩
  · exact hsame
  · exact absurd (h.symm.trans hsome) nofun

/-! ## Slashes -/

/-- No escape reaches over a slash. -/
theorem startsEscape_append_slash (xs ys : List Char) : startsEscape (xs ++ '/' :: ys) = startsEscape xs := by
  have hslash : Digit.value? 16 '/' = none := rfl
  match xs with
  | [] => rfl
  | [c] => cases ys <;> simp [startsEscape, startsWithDigits, hslash]
  | [c, d] => simp [startsEscape, startsWithDigits, hslash]
  | c :: d :: e :: rest => rfl

theorem decode_append_slash (xs ys : List Char) :
    decode (xs ++ '/' :: ys) = decode xs ++ decode ('/' :: ys) := by
  induction xs using escape_induction with
  | nil => rfl
  | escape a b high low rest ha hb ih =>
      rw [decode_escape ha hb, List.cons_append, List.cons_append, List.cons_append, decode_escape ha hb, ih,
        List.cons_append]
  | char c rest hstart ih =>
      rw [decode_cons hstart, List.cons_append, decode_cons, ih, List.append_assoc]
      exact (startsEscape_append_slash (c :: rest) ys).trans hstart

theorem hasEscape_append_slash (xs ys : List Char) :
    hasEscape (xs ++ '/' :: ys) = (hasEscape xs || hasEscape ys) := by
  induction xs with
  | nil => rfl
  | cons c rest ih =>
      rw [List.cons_append, hasEscape_cons, hasEscape_cons, ih, ← List.cons_append, startsEscape_append_slash,
        Bool.or_assoc]

/-- Escapes in a part of a text are escapes in the text. -/
theorem hasEscape_of_infix {xs ys : List Char} (h : xs <:+: ys) (hescape : hasEscape xs = true) :
    hasEscape ys = true := by
  obtain ⟨before, after, rfl⟩ := h
  rw [hasEscape, List.any_eq_true] at hescape ⊢
  obtain ⟨tail, hmem, hstart⟩ := hescape
  obtain ⟨front, hfront⟩ := (List.mem_tails _ _).1 hmem
  refine ⟨tail ++ after, (List.mem_tails _ _).2 ⟨before ++ front, ?_⟩, ?_⟩
  · simp [← hfront]
  · match tail, hstart with
    | c :: rest, hstart =>
      obtain ⟨hc, hdigits⟩ := Bool.and_eq_true_iff.1 hstart
      obtain ⟨a, b, high, low, later, rfl, ha, hb⟩ := startsWithDigits_eq_true_iff.1 hdigits
      exact hstart

/-! ## Characters of paths -/

theorem lt_of_digit {c : Char} {value : Nat} (h : Digit.value? 16 c = some value) : c.toNat < 128 := by
  by_contra hlarge
  have hdigit : c.isDigit = false := by
    simp only [Char.isDigit, Bool.and_eq_false_iff, decide_eq_false_iff_not, UInt32.le_iff_toNat_le, ge_iff_le]
    right
    change ¬ c.toNat ≤ 57
    omega
  have hsmall : ¬ c ≤ 'f' := by
    change ¬ c.toNat ≤ 102
    omega
  have hcapital : ¬ c ≤ 'F' := by
    change ¬ c.toNat ≤ 70
    omega
  simp [Digit.value?, hdigit, hsmall, hcapital] at h

/-- Digits are not encoded. -/
theorem inPath_of_digit {c : Char} {value : Nat} (h : Digit.value? 16 c = some value) : inPath c = false := by
  have hall : ∀ n < 128, (Digit.value? 16 (Char.ofNat n)).isSome → inPath (Char.ofNat n) = false := by
    decide +kernel
  have hc := hall c.toNat (lt_of_digit h)
  rw [Char.ofNat_toNat] at hc
  exact hc (by rw [h]; rfl)

theorem value?_upper : ∀ n < 16, Digit.value? 16 (Digit.upper n) = some n := by
  decide

theorem decode_byte_append (b : UInt8) (rest : List Char) : decode (byte b ++ rest) = b :: decode rest := by
  have hbound := b.toNat_lt
  have hhigh := value?_upper (b.toNat / 16) (by omega)
  have hlow := value?_upper (b.toNat % 16) (by omega)
  have hsum : b.toNat / 16 * 16 + b.toNat % 16 = b.toNat := by omega
  refine (decode_escape hhigh hlow rest).trans ?_
  rw [hsum, UInt8.ofNat_toNat]

theorem decode_bytes_append (bytes : List UInt8) (rest : List Char) :
    decode (bytes.flatMap byte ++ rest) = bytes ++ decode rest := by
  induction bytes with
  | nil => rfl
  | cons b bytes ih => rw [List.flatMap_cons, List.append_assoc, decode_byte_append, ih, List.cons_append]

theorem encode_cons (isEncoded : Char → Bool) (c : Char) (cs : List Char) :
    encode isEncoded (c :: cs) =
      (if isEncoded c then (String.utf8EncodeChar c).flatMap byte else [c]) ++ encode isEncoded cs := rfl

/-- What is encoded starts with a percent sign. -/
theorem encode_of_inPath {c : Char} (h : inPath c = true) (cs : List Char) :
    ∃ rest, encode inPath (c :: cs) = '%' :: rest := by
  rw [encode_cons, if_pos h]
  cases hbytes : String.utf8EncodeChar c with
  | nil => exact absurd hbytes String.utf8EncodeChar_ne_nil
  | cons b bytes => exact ⟨_, rfl⟩

theorem digit_of_inPath {c : Char} (h : inPath c = true) : Digit.value? 16 c = none := by
  cases hvalue : Digit.value? 16 c with
  | none => rfl
  | some value => exact absurd (h.symm.trans (inPath_of_digit hvalue)) nofun

/-- Digits stay as they are, and no others come about. -/
theorem startsWithDigits_encode (cs : List Char) :
    startsWithDigits (encode inPath cs) = startsWithDigits cs := by
  have hpercent : Digit.value? 16 '%' = none := rfl
  have hfirst : ∀ {c : Char}, Digit.value? 16 c = none → ∀ rest, startsWithDigits (c :: rest) = false := by
    intro c hc rest
    cases rest <;> simp [startsWithDigits, hc]
  match cs with
  | [] => rfl
  | c :: rest =>
    -- a character that is encoded was no digit, and a percent sign, which is none either, takes its place
    by_cases hc : inPath c = true
    · obtain ⟨later, hencoded⟩ := encode_of_inPath hc rest
      rw [hencoded, hfirst hpercent, hfirst (digit_of_inPath hc)]
    · rw [encode_cons, if_neg hc, List.singleton_append]
      match rest with
      | [] => rfl
      | d :: rest =>
        by_cases hd : inPath d = true
        · obtain ⟨later, hencoded⟩ := encode_of_inPath hd rest
          simp [hencoded, startsWithDigits, hpercent, digit_of_inPath hd]
        · rw [encode_cons, if_neg hd]
          rfl

/-- What is encoded in a path stands for the same bytes. -/
theorem decode_encode (cs : List Char) : decode (encode inPath cs) = decode cs := by
  induction cs using escape_induction with
  | nil => rfl
  | escape a b high low rest ha hb ih =>
      have hpercent : inPath '%' = false := rfl
      rw [encode_cons, encode_cons, encode_cons, hpercent, inPath_of_digit ha, inPath_of_digit hb,
        decode_escape ha hb, ← ih]
      exact decode_escape ha hb _
  | char c rest hstart ih =>
      rw [encode_cons, decode_cons hstart, ← ih]
      by_cases hc : inPath c = true
      · rw [if_pos hc, decode_bytes_append]
      · rw [if_neg hc, List.singleton_append]
        refine decode_cons ?_
        rw [startsEscape, startsWithDigits_encode]
        exact hstart

end Percent

end PullRequestBot
