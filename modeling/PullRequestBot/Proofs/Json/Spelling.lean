import PullRequestBot.Proofs.Json.Grammar
import PullRequestBot.Proofs.Json.Written

set_option autoImplicit false

/-! # Strings are read as they are spelt

A string is read from every spelling of its characters (`readString_spellsChars`), and what is read as a
string is a spelling (`exists_string`). The reader looks at one character, or at one escape, in each step,
and so do the rules. -/

namespace PullRequestBot.Json

variable {cs rest : List Char}

/-! ## Escapes -/

/-- Four digits are read, whatever follows. -/
theorem readFourHex_cons (a b c d : Char) (rest : List Char) :
    readFourHex (a :: b :: c :: d :: rest) =
      (Digit.number? 16 [a, b, c, d]).map fun unit => (unit, rest) := by
  unfold readFourHex Digit.number?
  simp only [List.mapM_cons, List.mapM_nil]
  rcases Digit.value? 16 a with _ | a
  · rfl
  rcases Digit.value? 16 b with _ | b
  · rfl
  rcases Digit.value? 16 c with _ | c
  · rfl
  rcases Digit.value? 16 d with _ | d
  · rfl
  · simp [Digit.valueOf]

theorem readFourHex_eq_some {unit : Nat} :
    readFourHex cs = some (unit, rest) ↔ ∃ digits, cs = digits ++ rest ∧ SpellsUnit digits unit := by
  constructor
  · intro h
    match cs with
    | a :: b :: c :: d :: more =>
        rw [readFourHex_cons] at h
        obtain ⟨unit', hunit, heq⟩ := Option.map_eq_some_iff.1 h
        obtain ⟨rfl, rfl⟩ := Prod.mk.inj heq
        exact ⟨[a, b, c, d], rfl, rfl, hunit⟩
    | [] | [_] | [_, _] | [_, _, _] => exact absurd h nofun
  · rintro ⟨digits, rfl, hlength, hunit⟩
    match digits with
    | [a, b, c, d] =>
        show readFourHex (a :: b :: c :: d :: rest) = _
        rw [readFourHex_cons, hunit]
        rfl

/-- A character is read after its backslash. -/
theorem readEscaped_mark {mark c : Char} (h : shortEscape? mark = some c) (rest : List Char) :
    readEscaped (mark :: rest) = some (c, rest) := by
  unfold shortEscape? at h
  split at h
  all_goals
    first
    | rw [← Option.some.inj h]; rfl
    | exact absurd h nofun

theorem readEscapedNumber_unit {digits : List Char} {unit : Nat} (h : SpellsUnit digits unit)
    (alone : unit < 0xD800 ∨ 0xDFFF < unit) (rest : List Char) :
    readEscapedNumber (digits ++ rest) = some (Char.ofNat unit, rest) := by
  rw [readEscapedNumber, readFourHex_eq_some.2 ⟨digits, rfl, h⟩]
  show (if 0xD800 ≤ unit ∧ unit ≤ 0xDBFF then _ else if 0xDC00 ≤ unit ∧ unit ≤ 0xDFFF then none
    else some (Char.ofNat unit, rest)) = _
  rw [if_neg (by omega), if_neg (by omega)]

theorem readEscapedNumber_pair {digits digits' : List Char} {high low : Nat} (h : SpellsUnit digits high)
    (h' : SpellsUnit digits' low) (isHigh : 0xD800 ≤ high ∧ high ≤ 0xDBFF)
    (isLow : 0xDC00 ≤ low ∧ low ≤ 0xDFFF) (rest : List Char) :
    readEscapedNumber (digits ++ '\\' :: 'u' :: (digits' ++ rest)) =
      some (Char.ofNat ((high - 0xD800) * 1024 + (low - 0xDC00) + 0x10000), rest) := by
  rw [readEscapedNumber, readFourHex_eq_some.2 ⟨digits, rfl, h⟩]
  show (if 0xD800 ≤ high ∧ high ≤ 0xDBFF then readFourHex (digits' ++ rest) >>= _ else _) = _
  rw [if_pos isHigh, readFourHex_eq_some.2 ⟨digits', rfl, h'⟩]
  exact if_pos isLow

/-- What is read after `\u` spells a character. -/
theorem exists_escapedNumber {c : Char} (h : readEscapedNumber cs = some (c, rest)) :
    ∃ text, cs = text ++ rest ∧ SpellsChar ('\\' :: 'u' :: text) c := by
  obtain ⟨⟨unit, tail⟩, hunit, hunits⟩ := Option.bind_eq_some_iff.1 h
  obtain ⟨digits, rfl, hdigits⟩ := readFourHex_eq_some.1 hunit
  dsimp only at hunits
  split at hunits
  · next hhigh =>
      split at hunits
      · next after =>
          obtain ⟨⟨low, after'⟩, hlow, hpair⟩ := Option.bind_eq_some_iff.1 hunits
          obtain ⟨digits', rfl, hdigits'⟩ := readFourHex_eq_some.1 hlow
          obtain ⟨hisLow, heq⟩ := Option.ite_none_right_eq_some.1 hpair
          obtain ⟨rfl, rfl⟩ := Prod.mk.inj (Option.some.inj heq)
          refine ⟨digits ++ '\\' :: 'u' :: digits', ?_, .pair hdigits hdigits' hhigh hisLow⟩
          rw [List.append_assoc]
          rfl
      · exact absurd hunits nofun
  · next hhigh =>
      obtain ⟨hlow, heq⟩ := Option.ite_none_left_eq_some.1 hunits
      obtain ⟨rfl, rfl⟩ := Prod.mk.inj (Option.some.inj heq)
      exact ⟨digits, rfl, .unit hdigits (by omega)⟩

/-- What is read after a backslash spells a character. -/
theorem exists_escaped {c : Char} (h : readEscaped cs = some (c, rest)) :
    ∃ text, cs = text ++ rest ∧ SpellsChar ('\\' :: text) c := by
  unfold readEscaped at h
  split at h
  case h_9 =>
    obtain ⟨text, rfl, hspells⟩ := exists_escapedNumber h
    exact ⟨'u' :: text, rfl, hspells⟩
  case h_10 => exact absurd h nofun
  all_goals
    obtain ⟨rfl, rfl⟩ := Prod.mk.inj (Option.some.inj h)
    exact ⟨[_], rfl, .mark rfl⟩

/-! ## Characters and strings -/

/-- A character of a string is read from what spells it. -/
theorem readStringFrom_spellsChar {text : List Char} {c : Char} (h : SpellsChar text c) (fuel : Nat)
    (done rest : List Char) :
    readStringFrom (fuel + 1) done (text ++ rest) = readStringFrom fuel (c :: done) rest := by
  have hslash : ∀ after, readEscaped after = some (c, rest) →
      readStringFrom (fuel + 1) done ('\\' :: after) = readStringFrom fuel (c :: done) rest := by
    intro after hafter
    show (readEscaped after >>= fun read => readStringFrom fuel (read.1 :: done) read.2) = _
    rw [hafter]
    rfl
  cases h with
  | itself quote slash visible => exact readStringFrom_cons fuel done rest quote slash visible
  | mark known => exact hslash _ (readEscaped_mark known rest)
  | unit spelt alone => exact hslash _ (readEscapedNumber_unit spelt alone rest)
  | @pair digits digits' high low spelt spelt' isHigh isLow =>
      refine hslash _ ?_
      show readEscapedNumber (digits ++ '\\' :: 'u' :: digits' ++ rest) = _
      rw [List.append_assoc]
      exact readEscapedNumber_pair spelt spelt' isHigh isLow rest

theorem SpellsChar.length_pos {text : List Char} {c : Char} (h : SpellsChar text c) : 0 < text.length := by
  cases h with
  | itself | mark | unit | pair => exact Nat.succ_pos _

theorem SpellsChars.length_le {text cs : List Char} (h : SpellsChars text cs) :
    cs.length ≤ text.length := by
  induction h with
  | nil => exact Nat.le_refl _
  | cons first _ ih =>
      have hpos := first.length_pos
      rw [List.length_append, List.length_cons]
      omega

theorem readStringFrom_spellsChars {text cs : List Char} (h : SpellsChars text cs) {fuel : Nat}
    (done rest : List Char) (hfuel : cs.length < fuel) :
    readStringFrom fuel done (text ++ '"' :: rest) = some (String.ofList (done.reverse ++ cs), rest) := by
  induction h generalizing fuel done with
  | nil =>
      obtain ⟨fuel, rfl⟩ := Nat.exists_eq_add_of_lt hfuel
      rw [List.append_nil]
      rfl
  | @cons text texts c cs first _ ih =>
      obtain ⟨fuel, rfl⟩ := Nat.exists_eq_add_of_le' (Nat.one_le_of_lt hfuel)
      rw [List.append_assoc, readStringFrom_spellsChar first, ih _ (Nat.lt_of_succ_lt_succ hfuel),
        List.reverse_cons, List.append_assoc]
      rfl

/-- A string is read from what spells its characters. -/
theorem readString_spellsChars {text : List Char} {s : String} (h : SpellsChars text s.toList)
    (rest : List Char) : readString (text ++ '"' :: rest) = some (s, rest) := by
  have hfuel : s.toList.length < (text ++ '"' :: rest).length + 1 := by
    have hlength := h.length_le
    rw [List.length_append]
    omega
  rw [readString, readStringFrom_spellsChars h [] rest hfuel, List.reverse_nil, List.nil_append,
    String.ofList_toList]

theorem exists_stringFrom {fuel : Nat} {done : List Char} {s : String}
    (h : readStringFrom fuel done cs = some (s, rest)) :
    ∃ text characters, cs = text ++ '"' :: rest ∧ SpellsChars text characters ∧
      s = String.ofList (done.reverse ++ characters) := by
  induction fuel generalizing done cs with
  | zero => exact absurd h nofun
  | succ fuel ih =>
      rw [readStringFrom.eq_def] at h
      dsimp only at h
      split at h
      · exact absurd h nofun
      · obtain ⟨rfl, rfl⟩ := Prod.mk.inj (Option.some.inj h)
        exact ⟨[], [], rfl, .nil, by rw [List.append_nil]⟩
      · obtain ⟨⟨c, after⟩, hescaped, hafter⟩ := Option.bind_eq_some_iff.1 h
        obtain ⟨text, rfl, hspells⟩ := exists_escaped hescaped
        obtain ⟨texts, characters, rfl, hrest, rfl⟩ := ih hafter
        refine ⟨'\\' :: text ++ texts, c :: characters, ?_, .cons hspells hrest, ?_⟩
        · rw [List.append_assoc]
          rfl
        · rw [List.reverse_cons, List.append_assoc]
          rfl
      · next c after hquote hslash =>
          obtain ⟨hvisible, hafter⟩ := Option.ite_none_left_eq_some.1 h
          obtain ⟨texts, characters, rfl, hrest, rfl⟩ := ih hafter
          refine ⟨[c] ++ texts, c :: characters, rfl, .cons (.itself hquote hslash hvisible) hrest, ?_⟩
          rw [List.reverse_cons, List.append_assoc]
          rfl

/-- What is read as a string spells its characters. -/
theorem exists_string {s : String} (h : readString cs = some (s, rest)) :
    ∃ text, cs = text ++ '"' :: rest ∧ SpellsChars text s.toList := by
  obtain ⟨text, characters, rfl, hspells, rfl⟩ := exists_stringFrom h
  exact ⟨text, rfl, by rwa [List.reverse_nil, List.nil_append, String.toList_ofList]⟩

end PullRequestBot.Json
