import PullRequestBot.Text.Boundary

set_option autoImplicit false

/-! # Bytes that are a text

Bytes are decoded if and only if they are the bytes of a text (`decode_eq_some_iff`). A character that is
read takes exactly the bytes that encode it (`encodes_of_step`): the bounds on the first two bytes leave only
numbers that need as many bytes. -/

namespace PullRequestBot.Text.Utf8

/-! ## The bytes of a character -/

theorem toNat_ofNat {v : Nat} (h : v.isValidChar) : (Char.ofNat v).val.toNat = v := by
  rw [Char.ofNat, dif_pos h]
  rfl

theorem ofNat_eq {n : Nat} {b : UInt8} (h : n = b.toNat) : UInt8.ofNat n = b := by
  rw [h, UInt8.ofNat_toNat]

section Widths

variable {b c d e : UInt8} {v : Nat}

theorem utf8EncodeChar_one (h : b.toNat ≤ 0x7F) : String.utf8EncodeChar (Char.ofNat b.toNat) = [b] := by
  rw [String.utf8EncodeChar, toNat_ofNat (Or.inl (by omega))]
  rw [if_pos h, UInt8.ofNat_toNat]

theorem utf8EncodeChar_two (low : 0x80 ≤ v) (high : v ≤ 0x7FF) (hb : v / 64 % 32 + 0xC0 = b.toNat)
    (hc : v % 64 + 0x80 = c.toNat) : String.utf8EncodeChar (Char.ofNat v) = [b, c] := by
  rw [String.utf8EncodeChar, toNat_ofNat (Or.inl (by omega))]
  rw [if_neg (by omega), if_pos high, ofNat_eq hb, ofNat_eq hc]

theorem utf8EncodeChar_three (low : 0x800 ≤ v) (high : v ≤ 0xFFFF) (scalar : v < 0xD800 ∨ 0xDFFF < v)
    (hb : v / 4096 % 16 + 0xE0 = b.toNat) (hc : v / 64 % 64 + 0x80 = c.toNat)
    (hd : v % 64 + 0x80 = d.toNat) : String.utf8EncodeChar (Char.ofNat v) = [b, c, d] := by
  rw [String.utf8EncodeChar, toNat_ofNat (scalar.imp id fun h => ⟨h, by omega⟩)]
  rw [if_neg (by omega), if_neg (by omega), if_pos high, ofNat_eq hb, ofNat_eq hc, ofNat_eq hd]

theorem utf8EncodeChar_four (low : 0x10000 ≤ v) (high : v < 0x110000)
    (hb : v / 262144 % 8 + 0xF0 = b.toNat) (hc : v / 4096 % 64 + 0x80 = c.toNat)
    (hd : v / 64 % 64 + 0x80 = d.toNat) (he : v % 64 + 0x80 = e.toNat) :
    String.utf8EncodeChar (Char.ofNat v) = [b, c, d, e] := by
  rw [String.utf8EncodeChar, toNat_ofNat (Or.inr ⟨by omega, high⟩)]
  rw [if_neg (by omega), if_neg (by omega), if_neg (by omega), ofNat_eq hb, ofNat_eq hc, ofNat_eq hd,
    ofNat_eq he]

/-- The second byte is a continuation, and within narrower bounds behind some first bytes. -/
theorem isSecond_bounds (h : isSecond b c = true) :
    0x80 ≤ c.toNat ∧ c.toNat ≤ 0xBF ∧ (b.toNat = 0xE0 → 0xA0 ≤ c.toNat) ∧
      (b.toNat = 0xED → c.toNat ≤ 0x9F) ∧ (b.toNat = 0xF0 → 0x90 ≤ c.toNat) ∧
      (b.toNat = 0xF4 → c.toNat ≤ 0x8F) := by
  simp only [isSecond, isContinuation, beq_iff_eq, ← UInt8.toNat_inj, apply_ite (· = true),
    le_and_le_iff, UInt8.reduceToNat] at h
  repeat' split at h
  all_goals omega

end Widths

/-! ## Characters are read from their bytes -/

/-- The bytes in front are those of the character, and as many as the width says. -/
def Encodes (b : UInt8) (rest : List UInt8) (c : Char) (width : Nat) : Prop :=
  ∃ tail more, rest = tail ++ more ∧ String.utf8EncodeChar c = b :: tail ∧ width = tail.length + 1

section Steps

variable {b second third fourth : UInt8} {rest : List UInt8} {c : Char} {width : Nat}

theorem encodes_two (hb : (0xC2 ≤ b && b ≤ 0xDF) = true) (hsecond : isContinuation second = true)
    (more : List UInt8) :
    Encodes b (second :: more) (Char.ofNat (b.toNat % 32 * 64 + payload second)) 2 := by
  simp only [le_and_le_iff, UInt8.reduceToNat] at hb
  rw [isContinuation_iff] at hsecond
  unfold payload
  exact ⟨[second], more, rfl, utf8EncodeChar_two (by omega) (by omega) (by omega) (by omega), rfl⟩

theorem encodes_three (hb : (0xE0 ≤ b && b ≤ 0xEF) = true) (hsecond : isSecond b second = true)
    (hthird : isContinuation third = true) (more : List UInt8) :
    Encodes b (second :: third :: more)
      (Char.ofNat ((b.toNat % 16 * 64 + payload second) * 64 + payload third)) 3 := by
  simp only [le_and_le_iff, UInt8.reduceToNat] at hb
  obtain ⟨hlow, hhigh, hshort, hsurrogate, -, -⟩ := isSecond_bounds hsecond
  rw [isContinuation_iff] at hthird
  unfold payload
  exact ⟨[second, third], more, rfl, utf8EncodeChar_three (by omega) (by omega) (by omega) (by omega)
    (by omega) (by omega), rfl⟩

theorem encodes_four (hb : (0xF0 ≤ b && b ≤ 0xF4) = true) (hsecond : isSecond b second = true)
    (hthird : isContinuation third = true) (hfourth : isContinuation fourth = true) (more : List UInt8) :
    Encodes b (second :: third :: fourth :: more) (Char.ofNat
      (((b.toNat % 8 * 64 + payload second) * 64 + payload third) * 64 + payload fourth)) 4 := by
  simp only [le_and_le_iff, UInt8.reduceToNat] at hb
  obtain ⟨hlow, hhigh, -, -, hshort, hlarge⟩ := isSecond_bounds hsecond
  rw [isContinuation_iff] at hthird hfourth
  unfold payload
  exact ⟨[second, third, fourth], more, rfl, utf8EncodeChar_four (by omega) (by omega) (by omega)
    (by omega) (by omega) (by omega), rfl⟩

/-- **A character is read from the bytes that encode it**, and from no others. -/
theorem encodes_of_step (h : step b rest = .char c width) : Encodes b rest c width := by
  revert h
  fun_cases step b rest with
  | case1 _ hone =>
      intro h
      obtain ⟨rfl, rfl⟩ := Step.char.inj h
      rw [UInt8.lt_iff_toNat_lt] at hone
      exact ⟨[], rest, rfl, utf8EncodeChar_one (Nat.le_of_lt_succ hone), rfl⟩
  | case2 _ hb second more hsecond =>
      intro h
      obtain ⟨rfl, rfl⟩ := Step.char.inj h
      exact encodes_two hb hsecond more
  | case5 _ _ hb second hsecond third more hthird =>
      intro h
      obtain ⟨rfl, rfl⟩ := Step.char.inj h
      exact encodes_three hb hsecond hthird more
  | case10 _ _ _ hb second hsecond third hthird fourth more hfourth =>
      intro h
      obtain ⟨rfl, rfl⟩ := Step.char.inj h
      exact encodes_four hb hsecond hthird hfourth more
  | _ => exact nofun

end Steps

/-! ## Texts are read from their bytes -/

theorem eq_encodeChars_of_steps {bytes : List UInt8} {cs : List Char}
    (h : (stepsFrom 0 bytes).mapM Step.char? = some cs) : bytes = encodeChars cs := by
  -- a step passes over the bytes of a whole character
  induction hlength : bytes.length using Nat.strongRecOn generalizing bytes cs with
  | ind length ih =>
      cases bytes with
      | nil =>
          obtain rfl := Option.some.inj h
          rfl
      | cons b rest =>
          rw [stepsFrom] at h
          split at h
          · next c width hstep =>
              obtain ⟨tail, more, rfl, hchar, rfl⟩ := encodes_of_step hstep
              rw [List.mapM_cons, Nat.add_sub_cancel, stepsFrom_append] at h
              obtain ⟨c', hc, hcs⟩ := Option.bind_eq_some_iff.1 h
              obtain rfl := Option.some.inj hc
              obtain ⟨cs', hmore, hcons⟩ := Option.bind_eq_some_iff.1 hcs
              obtain rfl := Option.some.inj hcons
              rw [List.length_cons, List.length_append] at hlength
              have hrest : more = encodeChars cs' := ih more.length (by omega) hmore rfl
              rw [encodeChars_cons, hchar, List.cons_append, ← hrest]
          · rw [List.mapM_cons] at h
            exact absurd h.symm (Option.some_ne_none _)

/-- **Bytes are decoded if and only if they are those of a text.** -/
theorem decode_eq_some_iff {bytes : List UInt8} {text : String} :
    decode bytes = some text ↔ bytes = encode text := by
  constructor
  · intro h
    obtain ⟨cs, hcs, rfl⟩ := Option.map_eq_some_iff.1 h
    rw [encode, String.toList_ofList]
    exact eq_encodeChars_of_steps hcs
  · rintro rfl
    exact decode_encode text

end PullRequestBot.Text.Utf8
