import PullRequestBot.Text.Utf8

set_option autoImplicit false

/-! # Places in the bytes of a text

A text can be searched and cut by the bytes of its UTF-8 form. A place among these bytes is a *boundary*
if no character lies across it, and nowhere else may a text be cut: `sliceFrom?` gives nothing there.

Bytes and characters fit together. Decoding takes back what encoding wrote (`step_encodeChars_cons`), so
one encoded text starts with another exactly if the characters do (`encodeChars_prefix_iff`). No byte
inside a character can be taken for the first byte of one, so the bytes of a pattern are only found
between two characters, and first where the characters are (`find?_encodeChars`). -/

namespace PullRequestBot.Text.Utf8

/-! ## Cutting and searching -/

/-- Whether no character lies across a place. -/
def isBoundary (bytes : List UInt8) (place : Nat) : Bool :=
  place == 0 ||
    match bytes[place]? with
    | some b => !isContinuation b
    | none => place == bytes.length

/-- What follows a place; nothing if a character would be cut. -/
def sliceFrom? (bytes : List UInt8) (place : Nat) : Option (List UInt8) :=
  if isBoundary bytes place then some (bytes.drop place) else none

/-- What stands before a place; nothing if a character would be cut. -/
def sliceTo? (bytes : List UInt8) (place : Nat) : Option (List UInt8) :=
  if isBoundary bytes place then some (bytes.take place) else none

/-- The first place at which a pattern is found. -/
def find? (pattern : List UInt8) : List UInt8 → Option Nat
  | [] => if pattern.isEmpty then some 0 else none
  | b :: rest =>
    if pattern.isPrefixOf (b :: rest) then some 0 else (find? pattern rest).map (· + 1)

/-- The number of bytes of the first character; one if there is none. -/
def firstWidth : List UInt8 → Nat
  | [] => 1
  | b :: rest =>
    match step b rest with
    | .char value _ => value.utf8Size
    | .bad _ => 1

theorem firstWidth_pos (bytes : List UInt8) : 0 < firstWidth bytes := by
  unfold firstWidth
  split
  · exact Nat.one_pos
  · split
    · exact Char.utf8Size_pos _
    · exact Nat.one_pos

theorem le_length_of_isBoundary {bytes : List UInt8} {place : Nat}
    (h : isBoundary bytes place = true) : place ≤ bytes.length := by
  rw [isBoundary, Bool.or_eq_true, beq_iff_eq] at h
  rcases h with rfl | h
  · exact Nat.zero_le _
  · split at h
    · next hget => exact Nat.le_of_lt (List.getElem?_eq_some_iff.1 hget).1
    · exact Nat.le_of_eq (beq_iff_eq.1 h)

theorem le_length_of_sliceFrom? {bytes rest : List UInt8} {place : Nat}
    (h : sliceFrom? bytes place = some rest) : place ≤ bytes.length := by
  unfold sliceFrom? at h
  split at h
  · next hb => exact le_length_of_isBoundary hb
  · exact absurd h (by simp)

/-! ## Reading back one character -/

theorem le_and_le_iff (low b high : UInt8) :
    (low ≤ b && b ≤ high) = true ↔ low.toNat ≤ b.toNat ∧ b.toNat ≤ high.toNat := by
  simp only [UInt8.le_iff_toNat_le, Bool.and_eq_true, decide_eq_true_eq]

theorem isContinuation_iff (b : UInt8) :
    isContinuation b = true ↔ 0x80 ≤ b.toNat ∧ b.toNat ≤ 0xBF :=
  le_and_le_iff 0x80 b 0xBF

theorem not_lt_of_toNat {b : UInt8} (h : 0x80 ≤ b.toNat) : ¬ b < 0x80 := by
  rw [UInt8.lt_iff_toNat_lt]
  exact Nat.not_lt_of_le h

theorem step_one {b : UInt8} (rest : List UInt8) (h : b.toNat ≤ 0x7F) :
    step b rest = .char (Char.ofNat b.toNat) 1 := by
  have hb : b < 0x80 := by
    rw [UInt8.lt_iff_toNat_lt]
    exact Nat.lt_succ_of_le h
  unfold step
  rw [if_pos hb]

theorem step_two {b c : UInt8} (rest : List UInt8) {v : Nat} (low : 0x80 ≤ v) (high : v ≤ 0x7FF)
    (hb : b.toNat = v / 64 % 32 + 0xC0) (hc : c.toNat = v % 64 + 0x80) :
    step b (c :: rest) = .char (Char.ofNat v) 2 := by
  have h1 : ¬ b < 0x80 := not_lt_of_toNat (by omega)
  have h2 : (0xC2 ≤ b && b ≤ 0xDF) = true := by
    rw [le_and_le_iff, hb]
    simp only [UInt8.reduceToNat]
    omega
  have hcont : isContinuation c = true := (isContinuation_iff c).2 (by omega)
  have hv : b.toNat % 32 * 64 + payload c = v := by
    unfold payload
    omega
  simp only [step, if_neg h1, if_pos h2, if_pos hcont, hv]

theorem step_three {b c d : UInt8} (rest : List UInt8) {v : Nat} (low : 0x800 ≤ v)
    (high : v ≤ 0xFFFF) (scalar : v < 0xD800 ∨ 0xDFFF < v) (hb : b.toNat = v / 4096 % 16 + 0xE0)
    (hc : c.toNat = v / 64 % 64 + 0x80) (hd : d.toNat = v % 64 + 0x80) :
    step b (c :: d :: rest) = .char (Char.ofNat v) 3 := by
  have h1 : ¬ b < 0x80 := not_lt_of_toNat (by omega)
  have h2 : ¬ (0xC2 ≤ b && b ≤ 0xDF) = true := by
    rw [le_and_le_iff, hb]
    simp only [UInt8.reduceToNat]
    omega
  have h3 : (0xE0 ≤ b && b ≤ 0xEF) = true := by
    rw [le_and_le_iff, hb]
    simp only [UInt8.reduceToNat]
    omega
  -- The bounds on the second byte rule out a shorter form and a surrogate.
  have hsecond : isSecond b c = true := by
    simp only [isSecond, isContinuation, beq_iff_eq, ← UInt8.toNat_inj, apply_ite (· = true),
      le_and_le_iff, UInt8.reduceToNat, hb, hc]
    repeat' split
    all_goals omega
  have hcont : isContinuation d = true := (isContinuation_iff d).2 (by omega)
  have hv : (b.toNat % 16 * 64 + payload c) * 64 + payload d = v := by
    unfold payload
    omega
  simp only [step, if_neg h1, if_neg h2, if_pos h3, if_pos hsecond, if_pos hcont, hv]

theorem step_four {b c d e : UInt8} (rest : List UInt8) {v : Nat} (low : 0x10000 ≤ v)
    (high : v < 0x110000) (hb : b.toNat = v / 262144 % 8 + 0xF0)
    (hc : c.toNat = v / 4096 % 64 + 0x80) (hd : d.toNat = v / 64 % 64 + 0x80)
    (he : e.toNat = v % 64 + 0x80) :
    step b (c :: d :: e :: rest) = .char (Char.ofNat v) 4 := by
  have h1 : ¬ b < 0x80 := not_lt_of_toNat (by omega)
  have h2 : ¬ (0xC2 ≤ b && b ≤ 0xDF) = true := by
    rw [le_and_le_iff, hb]
    simp only [UInt8.reduceToNat]
    omega
  have h3 : ¬ (0xE0 ≤ b && b ≤ 0xEF) = true := by
    rw [le_and_le_iff, hb]
    simp only [UInt8.reduceToNat]
    omega
  have h4 : (0xF0 ≤ b && b ≤ 0xF4) = true := by
    rw [le_and_le_iff, hb]
    simp only [UInt8.reduceToNat]
    omega
  have hsecond : isSecond b c = true := by
    simp only [isSecond, isContinuation, beq_iff_eq, ← UInt8.toNat_inj, apply_ite (· = true),
      le_and_le_iff, UInt8.reduceToNat, hb, hc]
    repeat' split
    all_goals omega
  have hcont : isContinuation d = true := (isContinuation_iff d).2 (by omega)
  have hcont' : isContinuation e = true := (isContinuation_iff e).2 (by omega)
  have hv : ((b.toNat % 8 * 64 + payload c) * 64 + payload d) * 64 + payload e = v := by
    unfold payload
    omega
  simp only [step, if_neg h1, if_neg h2, if_neg h3, if_pos h4, if_pos hsecond, if_pos hcont,
    if_pos hcont', hv]

theorem toNat_byte {n : Nat} (h : n < 256) : (UInt8.ofNat n).toNat = n := by
  rw [UInt8.toNat_ofNat', Nat.mod_eq_of_lt h]

/-- **Decoding a character's bytes gives the character back**, whatever follows them. -/
theorem step_utf8EncodeChar (c : Char) :
    ∃ b tail, String.utf8EncodeChar c = b :: tail ∧
      ∀ rest, step b (tail ++ rest) = .char c c.utf8Size := by
  have valid : c.val.toNat < 0xD800 ∨ (0xDFFF < c.val.toNat ∧ c.val.toNat < 0x110000) := c.valid
  have back : Char.ofNat c.val.toNat = c := Char.ofNat_toNat c
  rw [← String.length_utf8EncodeChar c]
  fun_cases String.utf8EncodeChar c with
  | case1 v one =>
      refine ⟨_, _, rfl, fun rest => ?_⟩
      have hb : (UInt8.ofNat v).toNat = v := toNat_byte (by omega)
      rw [step_one _ (by omega), hb, back]
      rfl
  | case2 v _ two =>
      refine ⟨_, _, rfl, fun rest => ?_⟩
      rw [List.singleton_append, step_two rest (by omega) two (toNat_byte (by omega))
        (toNat_byte (by omega)), back]
      rfl
  | case3 v _ _ three =>
      refine ⟨_, _, rfl, fun rest => ?_⟩
      rw [List.cons_append, List.singleton_append, step_three rest (by omega) three (by omega)
        (toNat_byte (by omega)) (toNat_byte (by omega)) (toNat_byte (by omega)), back]
      rfl
  | case4 v _ _ _ =>
      refine ⟨_, _, rfl, fun rest => ?_⟩
      rw [List.cons_append, List.cons_append, List.singleton_append, step_four rest (by omega)
        (by omega) (toNat_byte (by omega)) (toNat_byte (by omega)) (toNat_byte (by omega))
        (toNat_byte (by omega)), back]
      rfl

/-- The first byte of a character is no continuation, all others are. -/
theorem continuation_utf8EncodeChar (c : Char) :
    ∃ b tail, String.utf8EncodeChar c = b :: tail ∧ isContinuation b = false ∧
      ∀ x ∈ tail, isContinuation x = true := by
  have valid : c.val.toNat < 0xD800 ∨ (0xDFFF < c.val.toNat ∧ c.val.toNat < 0x110000) := c.valid
  have first {n : Nat} (h : n < 0x80 ∨ 0xC0 ≤ n) (h' : n < 256) :
      isContinuation (UInt8.ofNat n) = false := by
    rw [Bool.eq_false_iff, ne_eq, isContinuation_iff, toNat_byte h']
    omega
  have later (n : Nat) : isContinuation (UInt8.ofNat (n % 64 + 0x80)) = true := by
    rw [isContinuation_iff, toNat_byte (by omega)]
    omega
  fun_cases String.utf8EncodeChar c with
  | case1 v _ => exact ⟨_, _, rfl, first (by omega) (by omega), by simp⟩
  | case2 v _ _ =>
      refine ⟨_, _, rfl, first (by omega) (by omega), ?_⟩
      simp only [List.forall_mem_cons, later, List.not_mem_nil, false_imp_iff, implies_true,
        and_self]
  | case3 v _ _ _ =>
      refine ⟨_, _, rfl, first (by omega) (by omega), ?_⟩
      simp only [List.forall_mem_cons, later, List.not_mem_nil, false_imp_iff, implies_true,
        and_self]
  | case4 v _ _ _ =>
      refine ⟨_, _, rfl, first (by omega) (by omega), ?_⟩
      simp only [List.forall_mem_cons, later, List.not_mem_nil, false_imp_iff, implies_true,
        and_self]

/-! ## Encoded texts -/

@[simp] theorem encodeChars_cons (c : Char) (cs : List Char) :
    encodeChars (c :: cs) = String.utf8EncodeChar c ++ encodeChars cs :=
  List.flatMap_cons

@[simp] theorem encodeChars_append (cs ds : List Char) :
    encodeChars (cs ++ ds) = encodeChars cs ++ encodeChars ds :=
  List.flatMap_append

theorem encodeChars_ne_nil {cs : List Char} (h : cs ≠ []) : encodeChars cs ≠ [] := by
  obtain ⟨c, rest, rfl⟩ := List.exists_cons_of_ne_nil h
  obtain ⟨b, tail, hc, -⟩ := step_utf8EncodeChar c
  rw [encodeChars_cons, hc]
  exact List.cons_ne_nil _ _

/-- The first character can be read off the bytes. -/
theorem step_encodeChars_cons (c : Char) (cs : List Char) (more : List UInt8) :
    ∃ b tail, encodeChars (c :: cs) ++ more = b :: tail ∧ step b tail = .char c c.utf8Size := by
  obtain ⟨b, tail, hc, hstep⟩ := step_utf8EncodeChar c
  refine ⟨b, tail ++ (encodeChars cs ++ more), ?_, hstep _⟩
  rw [encodeChars_cons, hc, List.append_assoc, List.cons_append]

/-- **One encoded text starts with another exactly if the characters do.** -/
theorem encodeChars_prefix_iff (ds cs : List Char) :
    encodeChars ds <+: encodeChars cs ↔ ds <+: cs := by
  constructor
  · intro h
    induction ds generalizing cs with
    | nil => exact List.nil_prefix
    | cons d ds ih =>
        obtain ⟨more, hmore⟩ := h
        cases cs with
        | nil =>
            have hnil := (List.append_eq_nil_iff.1 hmore).1
            exact absurd hnil (encodeChars_ne_nil (List.cons_ne_nil d ds))
        | cons c cs =>
            -- Both sides are decoded: what is read from the same bytes is the same character.
            obtain ⟨b, tail, hb, hd⟩ := step_encodeChars_cons d ds more
            obtain ⟨b', tail', hb', hc⟩ := step_encodeChars_cons c cs []
            have hsame : b :: tail = b' :: tail' := by
              rw [← hb, ← hb', List.append_nil, hmore]
            rw [List.cons.injEq] at hsame
            rw [hsame.1, hsame.2, hc] at hd
            obtain rfl : c = d := (Step.char.inj hd).1
            rw [encodeChars_cons, encodeChars_cons, List.append_assoc] at hmore
            exact List.cons_prefix_cons.2
              ⟨rfl, ih cs ⟨more, List.append_cancel_left hmore⟩⟩
  · rintro ⟨more, rfl⟩
    rw [encodeChars_append]
    exact List.prefix_append _ _

/-- The bytes of a step already taken are passed over. -/
theorem stepsFrom_append (taken rest : List UInt8) :
    stepsFrom taken.length (taken ++ rest) = stepsFrom 0 rest := by
  induction taken with
  | nil => rfl
  | cons b taken ih => exact ih

/-- Reading the bytes of characters gives the characters, one step each. -/
theorem stepsFrom_encodeChars (cs : List Char) :
    stepsFrom 0 (encodeChars cs) = cs.map fun c => .char c c.utf8Size := by
  induction cs with
  | nil => rfl
  | cons c cs ih =>
      obtain ⟨b, tail, hbytes, hstep⟩ := step_utf8EncodeChar c
      have hlength : c.utf8Size - 1 = tail.length := by
        have hbytelength := String.length_utf8EncodeChar c
        rw [hbytes, List.length_cons] at hbytelength
        omega
      rw [encodeChars_cons, hbytes, List.cons_append, stepsFrom, hstep]
      show _ :: stepsFrom (c.utf8Size - 1) (tail ++ encodeChars cs) = _
      rw [hlength, stepsFrom_append, ih]
      rfl

/-- **A text is decoded from its bytes.** -/
theorem decode_encode (s : String) : decode (encode s) = some s := by
  have hread : (s.toList.map fun c => Step.char c c.utf8Size).mapM Step.char? = some s.toList := by
    induction s.toList with
    | nil => rfl
    | cons c cs ih =>
        rw [List.map_cons, List.mapM_cons, ih]
        rfl
  rw [decode, encode, stepsFrom_encodeChars, hread]
  exact congrArg some String.ofList_toList

/-- Nothing is lost of a text that is decoded in any case. -/
theorem decodeLossyChars_encodeChars (cs : List Char) : decodeLossyChars (encodeChars cs) = cs := by
  rw [decodeLossyChars, stepsFrom_encodeChars, List.map_map]
  exact List.map_id cs

theorem encodeChars_injective {cs ds : List Char} (h : encodeChars cs = encodeChars ds) : cs = ds := by
  have hread := congrArg decodeLossyChars h
  rwa [decodeLossyChars_encodeChars, decodeLossyChars_encodeChars] at hread

theorem length_encodeChar_pos (c : Char) : 0 < (String.utf8EncodeChar c).length := by
  rw [String.length_utf8EncodeChar]
  exact c.utf8Size_pos

/-- A text from which characters are left out has fewer bytes. -/
theorem length_encodeChars_lt {cs ds : List Char} (h : cs.Sublist ds) (hne : cs ≠ ds) :
    (encodeChars cs).length < (encodeChars ds).length := by
  induction h with
  | slnil => exact absurd rfl hne
  | @cons cs ds c hsub ih =>
      have hpos := length_encodeChar_pos c
      rw [encodeChars_cons, List.length_append]
      by_cases hsame : cs = ds
      · rw [hsame]
        omega
      · have hlt := ih hsame
        omega
  | @cons_cons cs ds c hsub ih =>
      have hrest := ih fun hsame => hne (congrArg (List.cons c) hsame)
      simpa using hrest

theorem decodeLossy_encode (s : String) : decodeLossy (encode s) = s := by
  rw [decodeLossy, encode, decodeLossyChars_encodeChars, String.ofList_toList]

/-! ## The places of characters -/

/-- The place at which the character of a given index starts. -/
def placeOf (cs : List Char) (i : Nat) : Nat :=
  (encodeChars (cs.take i)).length

@[simp] theorem placeOf_zero (cs : List Char) : placeOf cs 0 = 0 := rfl

theorem placeOf_cons_succ (c : Char) (cs : List Char) (i : Nat) :
    placeOf (c :: cs) (i + 1) = c.utf8Size + placeOf cs i := by
  rw [placeOf, List.take_succ_cons, encodeChars_cons, List.length_append,
    String.length_utf8EncodeChar, placeOf]

theorem encodeChars_take_append_drop (cs : List Char) (i : Nat) :
    encodeChars (cs.take i) ++ encodeChars (cs.drop i) = encodeChars cs := by
  rw [← encodeChars_append, List.take_append_drop]

theorem drop_placeOf (cs : List Char) (i : Nat) :
    (encodeChars cs).drop (placeOf cs i) = encodeChars (cs.drop i) := by
  rw [← encodeChars_take_append_drop cs i, placeOf, List.drop_left]

theorem placeOf_le (cs : List Char) (i : Nat) : placeOf cs i ≤ (encodeChars cs).length := by
  rw [← encodeChars_take_append_drop cs i, List.length_append, placeOf]
  exact Nat.le_add_right _ _

theorem placeOf_add (cs : List Char) (i n : Nat) :
    placeOf cs (i + n) = placeOf cs i + placeOf (cs.drop i) n := by
  rw [placeOf, List.take_add, encodeChars_append, List.length_append, placeOf, placeOf]

theorem placeOf_lt {cs : List Char} {i j : Nat} (hi : i < cs.length) (hij : i < j) :
    placeOf cs i < placeOf cs j := by
  obtain ⟨n, rfl⟩ := Nat.exists_eq_add_of_lt hij
  rw [Nat.add_assoc, placeOf_add, List.drop_eq_getElem_cons hi, placeOf_cons_succ]
  have hpos := Char.utf8Size_pos cs[i]
  omega

theorem placeOf_length (cs : List Char) : placeOf cs cs.length = (encodeChars cs).length := by
  rw [placeOf, List.take_length]

theorem placeOf_mono (cs : List Char) {i j : Nat} (hij : i ≤ j) : placeOf cs i ≤ placeOf cs j := by
  obtain ⟨n, rfl⟩ := Nat.exists_eq_add_of_le hij
  rw [placeOf_add]
  exact Nat.le_add_right _ _

theorem placeOf_lt_iff {cs : List Char} {i : Nat} (hi : i < cs.length) (j : Nat) :
    placeOf cs i < placeOf cs j ↔ i < j := by
  constructor
  · intro h
    exact Nat.lt_of_not_le fun hji => Nat.not_lt_of_le (placeOf_mono cs hji) h
  · exact placeOf_lt hi

/-- An occurrence of a pattern ends where the character behind it starts. -/
theorem placeOf_add_length {pattern cs : List Char} {i : Nat} (h : pattern <+: cs.drop i) :
    placeOf cs (i + pattern.length) = placeOf cs i + (encodeChars pattern).length := by
  rw [placeOf_add, placeOf, placeOf, ← List.prefix_iff_eq_take.1 h]

theorem isBoundary_placeOf (cs : List Char) (i : Nat) :
    isBoundary (encodeChars cs) (placeOf cs i) = true := by
  have hdrop := drop_placeOf cs i
  cases hrest : cs.drop i with
  | nil =>
      have hlen : placeOf cs i = (encodeChars cs).length := by
        rw [placeOf, List.take_of_length_le (List.drop_eq_nil_iff.1 hrest)]
      rw [isBoundary, hlen, List.getElem?_eq_none (Nat.le_refl _)]
      simp
  | cons c rest =>
      obtain ⟨b, tail, hc, hb, -⟩ := continuation_utf8EncodeChar c
      have hget : (encodeChars cs)[placeOf cs i]? = some b := by
        rw [← List.head?_drop, hdrop, hrest, encodeChars_cons, hc]
        rfl
      rw [isBoundary, hget]
      simp [hb]

/-- A cut before a character leaves the bytes of that character and those behind it. -/
theorem sliceFrom?_placeOf (cs : List Char) (i : Nat) :
    sliceFrom? (encodeChars cs) (placeOf cs i) = some (encodeChars (cs.drop i)) := by
  rw [sliceFrom?, if_pos (isBoundary_placeOf cs i), drop_placeOf]

/-- A cut before a character leaves the bytes of those in front of it. -/
theorem sliceTo?_placeOf (cs : List Char) (i : Nat) :
    sliceTo? (encodeChars cs) (placeOf cs i) = some (encodeChars (cs.take i)) := by
  rw [sliceTo?, if_pos (isBoundary_placeOf cs i), ← encodeChars_take_append_drop cs i, placeOf,
    List.take_left]

theorem firstWidth_encodeChars (c : Char) (cs : List Char) :
    firstWidth (encodeChars (c :: cs)) = c.utf8Size := by
  obtain ⟨b, tail, hb, hstep⟩ := step_encodeChars_cons c cs []
  rw [List.append_nil] at hb
  rw [hb, firstWidth, hstep]

/-! ## Where a pattern is found -/

/-- A pattern that starts like a character is not found inside another one. -/
theorem find?_skip {x : UInt8} {xs : List UInt8} (hx : isContinuation x = false)
    (tail rest : List UInt8) (htail : ∀ y ∈ tail, isContinuation y = true) :
    find? (x :: xs) (tail ++ rest) = (find? (x :: xs) rest).map (· + tail.length) := by
  induction tail with
  | nil => simp
  | cons y tail ih =>
      have hxy : x ≠ y := by
        rintro rfl
        rw [htail x List.mem_cons_self] at hx
        exact absurd hx (by decide)
      have hno : (x :: xs).isPrefixOf (y :: (tail ++ rest)) = false := by
        rw [List.isPrefixOf_cons_cons, beq_eq_false_iff_ne.2 hxy, Bool.false_and]
      rw [List.cons_append, find?, hno, ih fun z hz => htail z (List.mem_cons_of_mem y hz),
        Option.map_map]
      rfl

/-- **The bytes of a pattern are found where its characters are first**, and nowhere else. -/
theorem find?_encodeChars {pattern : List Char} (hp : pattern ≠ []) (cs : List Char) :
    (find? (encodeChars pattern) (encodeChars cs) = none ∧ ∀ i, ¬ pattern <+: cs.drop i) ∨
      ∃ i, find? (encodeChars pattern) (encodeChars cs) = some (placeOf cs i) ∧
        pattern <+: cs.drop i ∧ ∀ j < i, ¬ pattern <+: cs.drop j := by
  obtain ⟨p, ps, rfl⟩ := List.exists_cons_of_ne_nil hp
  obtain ⟨x, xs, hpattern, hx⟩ : ∃ x xs, encodeChars (p :: ps) = x :: xs ∧
      isContinuation x = false := by
    obtain ⟨x, xs, hc, hx, -⟩ := continuation_utf8EncodeChar p
    exact ⟨x, xs ++ encodeChars ps, by rw [encodeChars_cons, hc]; rfl, hx⟩
  induction cs with
  | nil =>
      refine Or.inl ⟨?_, fun i h => ?_⟩
      · rw [hpattern]
        rfl
      · rw [List.drop_nil] at h
        exact hp (List.prefix_nil.1 h)
  | cons c cs ih =>
      obtain ⟨b, tail, hc, -, htail⟩ := continuation_utf8EncodeChar c
      have hbytes : encodeChars (c :: cs) = b :: (tail ++ encodeChars cs) := by
        rw [encodeChars_cons, hc]
        rfl
      by_cases hfirst : (p :: ps) <+: c :: cs
      · have hyes : (encodeChars (p :: ps)).isPrefixOf (b :: (tail ++ encodeChars cs)) = true := by
          rw [List.isPrefixOf_iff_prefix, ← hbytes, encodeChars_prefix_iff]
          exact hfirst
        refine Or.inr ⟨0, ?_, hfirst, fun j hj => absurd hj (Nat.not_lt_zero j)⟩
        rw [hbytes, find?, if_pos hyes]
        rfl
      · have hno : ¬ (encodeChars (p :: ps)).isPrefixOf (b :: (tail ++ encodeChars cs)) = true := by
          rw [List.isPrefixOf_iff_prefix, ← hbytes, encodeChars_prefix_iff]
          exact hfirst
        have hlater : find? (encodeChars (p :: ps)) (encodeChars (c :: cs))
            = (find? (encodeChars (p :: ps)) (encodeChars cs)).map (· + c.utf8Size) := by
          have hwidth : c.utf8Size = tail.length + 1 := by
            rw [← String.length_utf8EncodeChar c, hc]
            rfl
          rw [hbytes, find?, if_neg hno, hpattern, find?_skip hx tail _ htail, Option.map_map,
            hwidth]
          rfl
        rw [hlater]
        rcases ih with ⟨hnone, hall⟩ | ⟨i, hsome, hat, hbefore⟩
        · refine Or.inl ⟨by rw [hnone]; rfl, fun i => ?_⟩
          cases i with
          | zero => exact hfirst
          | succ i => exact hall i
        · refine Or.inr ⟨i + 1, ?_, hat, fun j hj => ?_⟩
          · rw [hsome, Option.map_some, placeOf_cons_succ, Nat.add_comm]
          · cases j with
            | zero => exact hfirst
            | succ j => exact hbefore j (Nat.lt_of_succ_lt_succ hj)

end PullRequestBot.Text.Utf8
