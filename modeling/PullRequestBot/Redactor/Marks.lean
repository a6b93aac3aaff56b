import PullRequestBot.Text.Boundary

set_option autoImplicit false

/-! # Marking the bytes of occurrences

A text is masked in two passes over its bytes. The first marks all bytes of all occurrences of every
token (`markAll`); the second writes `*` for each character whose first byte is marked (`maskFrom`).
Both cut and index the bytes of the text, and have no result if a cut lies across a character or a byte
does not exist.

That never happens: after the first pass the marks show exactly the characters under occurrences
(`markAll_shows`), and with such marks the second pass has a result (`maskFrom_eq`). -/

namespace PullRequestBot

open Text.Utf8

/-! ## The passes -/

/-- The character that hides another one. -/
def maskChar : Char := '*'

/-- Which bytes of a text are marked, and whether any occurrence was seen. -/
structure Marks where
  flags : List Bool
  any : Bool

namespace Marks

/-- Nothing is marked. -/
def clear (length : Nat) : Marks where
  flags := List.replicate length false
  any := false

/-- Marks a number of bytes from a place on; no result if one of them does not exist. -/
def fill? (marks : Marks) (place count : Nat) : Option Marks :=
  if place + count ≤ marks.flags.length then
    some { flags := marks.flags.mapIdx fun i flag => flag || (place ≤ i && i < place + count)
           any := true }
  else none

end Marks

/-- Marks the occurrences of a token that start at a place or behind it. The search goes on one
    character behind the start of an occurrence, so one that overlaps it is found as well. -/
def markFrom (bytes token : List UInt8) (place : Nat) (marks : Marks) : Option Marks :=
  match _h : sliceFrom? bytes place with
  | none => none
  | some rest =>
    match find? token rest with
    | none => some marks
    | some skipped => do
      let found := place + skipped
      let marks ← marks.fill? found token.length
      let here ← sliceFrom? bytes found
      markFrom bytes token (found + firstWidth here) marks
termination_by bytes.length + 1 - place
decreasing_by
  have hplace := le_length_of_sliceFrom? _h
  have hwidth := firstWidth_pos here
  omega

/-- Marks the occurrences of several tokens. -/
def markAll (bytes : List UInt8) (tokens : List (List UInt8)) (marks : Marks) : Option Marks :=
  tokens.foldlM (fun marks token => markFrom bytes token 0 marks) marks

/-- Masks the characters of which the first byte is marked; the first one starts at the given
    place. -/
def maskFrom (flags : List Bool) : Nat → List Char → Option (List Char)
  | _, [] => some []
  | place, c :: rest => do
    let marked ← flags[place]?
    let shown ← maskFrom flags (place + c.utf8Size) rest
    return (if marked then maskChar else c) :: shown

/-! ## Occurrences -/

/-- Whether an occurrence of a token that starts at the index `first` or behind it lies over the
    character of index `i`. -/
def LiesOverFrom (first : Nat) (token text : List Char) (i : Nat) : Prop :=
  ∃ start, start ≤ i ∧ first ≤ start ∧ i < start + token.length ∧ token <+: text.drop start

/-- Whether an occurrence of a token lies over the character of index `i`. The empty token lies over
    nothing. -/
def LiesOver (token text : List Char) (i : Nat) : Prop :=
  ∃ start, start ≤ i ∧ i < start + token.length ∧ token <+: text.drop start

instance (token text : List Char) (i : Nat) : Decidable (LiesOver token text i) :=
  inferInstanceAs (Decidable (∃ start, start ≤ i ∧ _))

theorem liesOverFrom_zero (token text : List Char) (i : Nat) :
    LiesOverFrom 0 token text i ↔ LiesOver token text i := by
  simp only [LiesOverFrom, LiesOver, Nat.zero_le, true_and]

/-- The first occurrence lies over its own characters, all others start behind it. -/
theorem liesOverFrom_iff_of_first {token text : List Char} {first start : Nat} (hle : first ≤ start)
    (hat : token <+: text.drop start)
    (hbefore : ∀ j, first ≤ j → j < start → ¬ token <+: text.drop j) (i : Nat) :
    LiesOverFrom first token text i ↔
      (start ≤ i ∧ i < start + token.length) ∨ LiesOverFrom (start + 1) token text i := by
  constructor
  · rintro ⟨s, hsi, hs, hi, hpre⟩
    rcases Nat.lt_trichotomy s start with hlt | rfl | hgt
    · exact absurd hpre (hbefore s hs hlt)
    · exact Or.inl ⟨hsi, hi⟩
    · exact Or.inr ⟨s, hsi, hgt, hi, hpre⟩
  · rintro (⟨hsi, hi⟩ | ⟨s, hsi, hs, hi, hpre⟩)
    · exact ⟨start, hsi, hle, hi, hat⟩
    · exact ⟨s, hsi, Nat.le_trans hle (Nat.le_of_succ_le hs), hi, hpre⟩

/-! ## What the marks show -/

/-- The marks show the covered characters: the first byte of a character is marked exactly if the
    character is covered, and if nothing was seen then nothing is covered. -/
structure Marks.Shows (marks : Marks) (cs : List Char) (covered : Nat → Prop) : Prop where
  length : marks.flags.length = (encodeChars cs).length
  flag : ∀ i < cs.length, marks.flags[placeOf cs i]? = some true ↔ covered i
  seen : marks.any = false → ∀ i < cs.length, ¬ covered i

namespace Marks.Shows

variable {marks : Marks} {cs : List Char} {covered covered' : Nat → Prop}

theorem congr (h : marks.Shows cs covered) (hiff : ∀ i, covered i ↔ covered' i) :
    marks.Shows cs covered' where
  length := h.length
  flag i hi := by rw [h.flag i hi, hiff]
  seen hany i hi := by
    rw [← hiff]
    exact h.seen hany i hi

theorem clear (cs : List Char) :
    (Marks.clear (encodeChars cs).length).Shows cs fun _ => False where
  length := List.length_replicate
  flag i _ := by
    simp only [Marks.clear, List.getElem?_replicate, iff_false]
    split <;> simp
  seen _ _ _ h := h

/-- The byte at which a character starts has a mark or none, but it exists. -/
theorem exists_flag (h : marks.Shows cs covered) {i : Nat} (hi : i < cs.length) :
    ∃ flag, marks.flags[placeOf cs i]? = some flag := by
  have hlt : placeOf cs i < marks.flags.length := by
    rw [h.length, ← placeOf_length]
    exact placeOf_lt hi hi
  exact ⟨_, List.getElem?_eq_getElem hlt⟩

/-- Marking an occurrence covers its characters. -/
theorem fill {token : List Char} {start : Nat} (h : marks.Shows cs covered)
    (hat : token <+: cs.drop start) :
    ∃ marks', marks.fill? (placeOf cs start) (encodeChars token).length = some marks' ∧
      marks'.Shows cs fun i => covered i ∨ (start ≤ i ∧ i < start + token.length) := by
  have hend := placeOf_add_length hat
  have hfits : placeOf cs start + (encodeChars token).length ≤ marks.flags.length := by
    rw [h.length, ← hend]
    exact placeOf_le cs _
  refine ⟨_, if_pos hfits, ?_, fun i hi => ?_, fun hany => absurd hany (by simp)⟩
  · rw [List.length_mapIdx, h.length]
  · obtain ⟨flag, hflag⟩ := h.exists_flag hi
    have hcovered : flag = true ↔ covered i := by
      rw [← h.flag i hi, hflag, Option.some.injEq]
    have hfrom : placeOf cs start ≤ placeOf cs i ↔ start ≤ i := by
      rw [← Nat.not_lt, placeOf_lt_iff hi, Nat.not_lt]
    rw [List.getElem?_mapIdx, hflag, Option.map_some, Option.some.injEq, Bool.or_eq_true, hcovered,
      ← hend, Bool.and_eq_true, decide_eq_true_eq, decide_eq_true_eq, placeOf_lt_iff hi, hfrom]

end Marks.Shows

/-- Marking from a character on covers the characters under the occurrences that start there or
    later. The induction is on the number of characters that are left to search. -/
theorem markFrom_shows {token : List Char} (htoken : token ≠ []) (cs : List Char) (first : Nat)
    {marks : Marks} {covered : Nat → Prop} (h : marks.Shows cs covered) :
    ∃ marks', markFrom (encodeChars cs) (encodeChars token) (placeOf cs first) marks = some marks' ∧
      marks'.Shows cs fun i => covered i ∨ LiesOverFrom first token cs i := by
  induction hleft : cs.length - first using Nat.strongRecOn generalizing first marks covered with
  | ind left ih =>
    rw [markFrom, sliceFrom?_placeOf]
    rcases find?_encodeChars htoken (cs.drop first) with ⟨hnone, hall⟩ | ⟨k, hsome, hat, hbefore⟩
    · refine ⟨marks, by simp only [hnone], h.congr fun i => ?_⟩
      have hno : ¬ LiesOverFrom first token cs i := by
        rintro ⟨s, -, hs, -, hpre⟩
        obtain ⟨n, rfl⟩ := Nat.exists_eq_add_of_le hs
        exact hall n (by rwa [List.drop_drop])
      rw [or_iff_left hno]
    · rw [List.drop_drop] at hat
      obtain ⟨c, rest, hrest⟩ : ∃ c rest, cs.drop (first + k) = c :: rest := by
        refine List.exists_cons_of_ne_nil fun hnil => htoken ?_
        rw [hnil] at hat
        exact List.prefix_nil.1 hat
      have hinside : first + k < cs.length := by
        rw [← Nat.not_le, ← List.drop_eq_nil_iff, hrest]
        exact List.cons_ne_nil c rest
      obtain ⟨filled, hfill, hshows⟩ := h.fill hat
      have hfound : placeOf cs first + placeOf (cs.drop first) k = placeOf cs (first + k) :=
        (placeOf_add cs first k).symm
      have hnext : placeOf cs (first + k) + firstWidth (encodeChars (cs.drop (first + k)))
          = placeOf cs (first + k + 1) := by
        rw [placeOf_add cs (first + k) 1, hrest, firstWidth_encodeChars, placeOf_cons_succ,
          placeOf_zero, Nat.add_zero]
      obtain ⟨marks', hmarks', hshows'⟩ :=
        ih (cs.length - (first + k + 1)) (by omega) (first + k + 1) hshows rfl
      refine ⟨marks', ?_, hshows'.congr fun i => ?_⟩
      · simp only [hsome, hfound, hfill, Option.bind_eq_bind, Option.bind_some, sliceFrom?_placeOf,
          hnext, hmarks']
      · have hfirst := liesOverFrom_iff_of_first (Nat.le_add_right first k) hat (fun j hj hjk => ?_) i
        · rw [or_assoc, ← hfirst]
        · obtain ⟨n, rfl⟩ := Nat.exists_eq_add_of_le hj
          rw [← List.drop_drop]
          exact hbefore n (Nat.lt_of_add_lt_add_left hjk)

/-- **Marking all tokens covers the characters under their occurrences**, and always has a result. -/
theorem markAll_shows {tokens : List (List Char)} (htokens : [] ∉ tokens) (cs : List Char)
    {marks : Marks} {covered : Nat → Prop} (h : marks.Shows cs covered) :
    ∃ marks', markAll (encodeChars cs) (tokens.map encodeChars) marks = some marks' ∧
      marks'.Shows cs fun i => covered i ∨ ∃ token ∈ tokens, LiesOver token cs i := by
  induction tokens generalizing marks covered with
  | nil =>
      refine ⟨marks, rfl, h.congr fun i => ?_⟩
      simp only [List.not_mem_nil, false_and, exists_false, or_false]
  | cons token tokens ih =>
      rw [List.mem_cons, not_or] at htokens
      obtain ⟨marked, hmarked, hshows⟩ := markFrom_shows (Ne.symm htokens.1) cs 0 h
      obtain ⟨marks', hmarks', hshows'⟩ := ih htokens.2 hshows
      refine ⟨marks', ?_, hshows'.congr fun i => ?_⟩
      · rw [placeOf_zero] at hmarked
        rw [List.map_cons, markAll, List.foldlM_cons, hmarked]
        exact hmarks'
      · simp only [liesOverFrom_zero, List.mem_cons, exists_eq_or_imp, or_assoc]

/-- The second pass has a result if every character has a flag, and the flags decide it. -/
theorem maskFrom_eq (flags : List Bool) (place : Nat) (cs : List Char) (covered : Nat → Bool)
    (h : ∀ i < cs.length, flags[place + placeOf cs i]? = some (covered i)) :
    maskFrom flags place cs = some (cs.mapIdx fun i c => if covered i then maskChar else c) := by
  induction cs generalizing place covered with
  | nil => rfl
  | cons c cs ih =>
      have hhead : flags[place]? = some (covered 0) := h 0 (Nat.succ_pos _)
      have htail : ∀ i < cs.length,
          flags[place + c.utf8Size + placeOf cs i]? = some (covered (i + 1)) := by
        intro i hi
        rw [Nat.add_assoc, ← placeOf_cons_succ]
        exact h (i + 1) (Nat.succ_lt_succ hi)
      rw [maskFrom, hhead, ih _ (fun i => covered (i + 1)) htail, List.mapIdx_cons]
      rfl

end PullRequestBot
