import PullRequestBot.Json.Printer
import PullRequestBot.Json.Reader

set_option autoImplicit false

/-! # What is written is read back

Texts, natural numbers and objects of them are read from what is written of them on one line
(`read_compact`). Every character of a text is read back from its escape, every number from its digits;
objects follow by induction on how they are built. -/

namespace PullRequestBot.Json

/-! ## Texts -/

/-- The digits of the control characters. -/
theorem fourHexDigits_facts :
    ∀ n < 0x20, fourHexDigits n = ['0', '0', Nat.digitChar (n / 16), Nat.digitChar (n % 16)] ∧
      Digit.value? 16 (Nat.digitChar (n / 16)) = some (n / 16) ∧
      Digit.value? 16 (Nat.digitChar (n % 16)) = some (n % 16) := by
  decide +kernel

/-- A control character is read from its number. -/
theorem readEscapedNumber_fourHexDigits {n : Nat} (h : n < 0x20) (rest : List Char) :
    readEscapedNumber (fourHexDigits n ++ rest) = some (Char.ofNat n, rest) := by
  obtain ⟨hdigits, hhigh, hlow⟩ := fourHexDigits_facts n h
  have hzero : Digit.value? 16 '0' = some 0 := by decide
  have hnumber : readFourHex (fourHexDigits n ++ rest) = some (n, rest) := by
    rw [hdigits]
    simp only [List.cons_append, List.nil_append, readFourHex, hzero, hhigh, hlow]
    exact congrArg (fun m => some (m, rest)) (by omega)
  rw [readEscapedNumber, hnumber]
  show (if 0xD800 ≤ n ∧ n ≤ 0xDBFF then _ else if 0xDC00 ≤ n ∧ n ≤ 0xDFFF then none
    else some (Char.ofNat n, rest)) = _
  rw [if_neg (by omega), if_neg (by omega)]

/-- A character that stands for itself. -/
theorem readStringFrom_cons (fuel : Nat) (done : List Char) {c : Char} (rest : List Char)
    (hquote : c ≠ '"') (hslash : c ≠ '\\') (hvisible : ¬ c.toNat < 0x20) :
    readStringFrom (fuel + 1) done (c :: rest) = readStringFrom fuel (c :: done) rest := by
  rw [readStringFrom]
  · rw [if_neg hvisible]
  · exact hquote
  · exact hslash

/-- A character is read back from how it is written. -/
theorem readStringFrom_escapedChar (fuel : Nat) (done : List Char) (c : Char) (rest : List Char) :
    readStringFrom (fuel + 1) done (escapedChar c ++ rest) = readStringFrom fuel (c :: done) rest := by
  unfold escapedChar
  iterate 7
    split
    · subst_vars
      rfl
  split
  · next hlow =>
      have hread := readEscapedNumber_fourHexDigits hlow rest
      rw [Char.ofNat_toNat] at hread
      show (readEscapedNumber (fourHexDigits c.toNat ++ rest) >>= fun read =>
        readStringFrom fuel (read.1 :: done) read.2) = _
      rw [hread]
      rfl
  · next hquote hslash _ _ _ _ _ hvisible =>
      exact readStringFrom_cons fuel done rest hquote hslash hvisible

theorem escapedChar_ne_nil (c : Char) : escapedChar c ≠ [] := by
  unfold escapedChar
  repeat' split
  all_goals nofun

theorem length_le_written (cs : List Char) : cs.length ≤ (cs.flatMap escapedChar).length := by
  induction cs with
  | nil => exact Nat.le_refl 0
  | cons c cs ih =>
      have hpos := List.length_pos_iff.2 (escapedChar_ne_nil c)
      rw [List.flatMap_cons, List.length_append, List.length_cons]
      omega

theorem readStringFrom_written (cs : List Char) {fuel : Nat} (done rest : List Char)
    (hfuel : cs.length < fuel) :
    readStringFrom fuel done (cs.flatMap escapedChar ++ '"' :: rest) =
      some (String.ofList (done.reverse ++ cs), rest) := by
  induction cs generalizing fuel done with
  | nil =>
      obtain ⟨fuel, rfl⟩ := Nat.exists_eq_add_of_lt hfuel
      rw [List.append_nil]
      rfl
  | cons c cs ih =>
      obtain ⟨fuel, rfl⟩ := Nat.exists_eq_add_of_le' (Nat.one_le_of_lt hfuel)
      rw [List.flatMap_cons, List.append_assoc, readStringFrom_escapedChar,
        ih _ (Nat.lt_of_succ_lt_succ hfuel), List.reverse_cons, List.append_assoc]
      rfl

/-- A text is read back from what is written between its quotes. -/
theorem readString_written (s : String) (rest : List Char) :
    readString (s.toList.flatMap escapedChar ++ '"' :: rest) = some (s, rest) := by
  have hfuel : s.toList.length < (s.toList.flatMap escapedChar ++ '"' :: rest).length + 1 := by
    have hlength := length_le_written s.toList
    rw [List.length_append]
    omega
  rw [readString, readStringFrom_written s.toList [] rest hfuel, List.reverse_nil, List.nil_append,
    String.ofList_toList]

/-! ## Natural numbers -/

/-- What may follow a value inside an object or at the end. -/
def Closes (rest : List Char) : Prop :=
  rest = [] ∨ ∃ more, rest = ',' :: more ∨ rest = '\x7d' :: more

theorem Closes.not_isDigit {c : Char} {rest : List Char} (h : Closes (c :: rest)) :
    c.isDigit = false := by
  rcases h with hnil | ⟨more, hcomma | hbrace⟩
  · exact absurd hnil nofun
  · obtain rfl := (List.cons.inj hcomma).1
    rfl
  · obtain rfl := (List.cons.inj hbrace).1
    rfl

theorem digitChar_facts : ∀ n < 10, (Nat.digitChar n).isDigit = true ∧
    digitValue (Nat.digitChar n) = n ∧ (0 < n → Nat.digitChar n ≠ '0') := by
  decide

/-- One more digit is read into a significand that stays below its bound. -/
theorem readSignificand_digitChar {significand digit : Nat} (count : Nat) (rest : List Char)
    (hdigit : digit < 10) (hbound : significand * 10 + digit < Word.bound 64) :
    readSignificand significand count (Nat.digitChar digit :: rest) =
      readSignificand (significand * 10 + digit) (count + 1) rest := by
  obtain ⟨hisDigit, hvalue, -⟩ := digitChar_facts digit hdigit
  rw [readSignificand, if_pos hisDigit, hvalue]
  exact if_pos hbound

/-- The digits of a number are read as the number. -/
theorem readSignificand_toDigits {n : Nat} (h : n < Word.bound 64) (rest : List Char) :
    ∃ count, readSignificand 0 0 (Nat.toDigits 10 n ++ rest) = readSignificand n count rest := by
  induction n using Nat.strongRecOn generalizing rest with
  | ind n ih =>
      by_cases hsmall : n < 10
      · rw [Nat.toDigits_of_lt_base hsmall]
        refine ⟨1, ?_⟩
        have hread := @readSignificand_digitChar 0 n 0 rest hsmall (by omega)
        rwa [Nat.zero_mul, Nat.zero_add] at hread
      · have hlast : n % 10 < 10 := Nat.mod_lt n (by decide)
        have hn : n / 10 * 10 + n % 10 = n := by omega
        obtain ⟨count, hcount⟩ := ih (n / 10) (by omega) (by omega) (Nat.digitChar (n % 10) :: rest)
        refine ⟨count + 1, ?_⟩
        rw [Nat.toDigits_of_base_le (by decide) (Nat.le_of_not_lt hsmall), List.append_assoc]
        rw [List.singleton_append, hcount, readSignificand_digitChar count rest hlast (by omega), hn]

/-- The digits of a number other than zero do not start with a zero. -/
theorem toDigits_head {n : Nat} (h : 0 < n) :
    ∃ c more, Nat.toDigits 10 n = c :: more ∧ c ≠ '0' ∧ c.isDigit = true := by
  induction n using Nat.strongRecOn with
  | ind n ih =>
      by_cases hsmall : n < 10
      · obtain ⟨hisDigit, -, hzero⟩ := digitChar_facts n hsmall
        exact ⟨_, [], Nat.toDigits_of_lt_base hsmall, hzero h, hisDigit⟩
      · obtain ⟨c, more, hdigits, hc⟩ := ih (n / 10) (by omega) (by omega)
        refine ⟨c, more ++ [Nat.digitChar (n % 10)], ?_, hc⟩
        rw [Nat.toDigits_of_base_le (by decide) (Nat.le_of_not_lt hsmall), hdigits]
        rfl

theorem readSignificand_closes {rest : List Char} (h : Closes rest) (n count : Nat) :
    readSignificand n count rest = (n, count, rest) := by
  cases rest with
  | nil => rfl
  | cons c more => rw [readSignificand, if_neg (by rw [h.not_isDigit]; nofun)]

/-- A zero stands alone. -/
theorem readNumber_zero {rest : List Char} (hrest : Closes rest) :
    readNumber false ('0' :: rest) = some (ofNat 0, rest) := by
  rcases hrest with rfl | ⟨more, rfl | rfl⟩ <;> rfl

/-- Digits that do not start with a zero are read as far as they fit. -/
theorem readNumber_cons {c : Char} {more rest : List Char} {n count : Nat} (hzero : c ≠ '0')
    (hisDigit : c.isDigit = true) (hread : readSignificand 0 0 (c :: more) = (n, count, rest))
    (hrest : Closes rest) : readNumber false (c :: more) = some (ofNat n, rest) := by
  unfold readNumber
  dsimp only
  split
  · next heq => exact absurd (List.cons.inj heq).1 hzero
  · next heq =>
      obtain ⟨rfl, rfl⟩ := List.cons.inj heq
      rw [if_pos hisDigit, hread]
      rcases hrest with rfl | ⟨more, rfl | rfl⟩ <;> rfl
  · next heq => exact absurd heq nofun

/-- A natural number is read back from its digits. -/
theorem readNumber_toDigits {n : Nat} (h : n < Word.bound 64) {rest : List Char} (hrest : Closes rest) :
    readNumber false (Nat.toDigits 10 n ++ rest) = some (ofNat n, rest) := by
  rcases Nat.eq_zero_or_pos n with rfl | hpos
  · exact readNumber_zero hrest
  · obtain ⟨count, hcount⟩ := readSignificand_toDigits h rest
    obtain ⟨c, more, hdigits, hzero, hisDigit⟩ := toDigits_head hpos
    rw [readSignificand_closes hrest, hdigits] at hcount
    rw [hdigits]
    exact readNumber_cons hzero hisDigit hcount hrest

/-! ## Values -/

/-- A value that is made of texts, natural numbers and objects, with a bound on how deep objects are
    nested. -/
inductive Plain : Nat → Json → Prop where
  | string (depth : Nat) (s : String) : Plain depth (.string s)
  | natural (depth : Nat) (n : UInt64) : Plain depth (.number (.natural n))
  | object {depth : Nat} {fields : List (String × Json)}
      (ascending : fields.Pairwise fun first second => first.1 < second.1)
      (inner : ∀ field ∈ fields, Plain (depth + 1) field.2) : Plain (depth + 2) (.object fields)

theorem ascending_of_keys {fields : List (String × Json)} (h : (fields.map Prod.fst).Pairwise (· < ·)) :
    fields.Pairwise fun first second => first.1 < second.1 :=
  List.pairwise_map.1 h

/-- With that many levels of nesting left, a value is read from what is written of it, whatever follows. -/
def ReadsBack (depth : Nat) (value : Json) : Prop :=
  ∀ fuel rest, 2 * (compact value).toList.length ≤ fuel → Closes rest →
    readValue fuel depth ((compact value).toList ++ rest) = some (value, rest)

theorem readsBack_string (depth : Nat) (s : String) : ReadsBack depth (.string s) := by
  intro fuel rest hfuel _
  have htext : (compact (.string s)).toList = '"' :: (s.toList.flatMap escapedChar ++ ['"']) := by
    rw [compact, stringText, String.toList_ofList]
    rfl
  rw [htext] at hfuel ⊢
  obtain ⟨fuel, rfl⟩ := Nat.exists_eq_add_of_le' (Nat.le_trans (by simp; omega : 1 ≤ _) hfuel)
  have hread := readString_written s rest
  show (readString (s.toList.flatMap escapedChar ++ ['"'] ++ rest)).map _ = _
  rw [List.append_assoc, List.singleton_append, hread]
  rfl

theorem skipGaps_cons {c : Char} (h : isGap c = false) (more : List Char) :
    skipGaps (c :: more) = c :: more := by
  rw [skipGaps, List.dropWhile_cons, h]
  rfl

/-- A digit is no blank. -/
theorem isGap_of_isDigit {c : Char} (h : c.isDigit = true) : isGap c = false := by
  rw [isGap]
  simp only [Bool.or_eq_false_iff, decide_eq_false_iff_not]
  refine ⟨⟨⟨?_, ?_⟩, ?_⟩, ?_⟩ <;> rintro rfl <;> exact absurd h nofun

/-- A value that starts with a digit is a number. -/
theorem readValue_digit (fuel depth : Nat) {c : Char} (h : c.isDigit = true) (more : List Char) :
    readValue (fuel + 1) depth (c :: more) = readNumber false (c :: more) := by
  rw [readValue, skipGaps_cons (isGap_of_isDigit h)]
  split
  · next heq => exact absurd heq nofun
  all_goals
    next heq =>
      first
      | rfl
      | exact absurd ((List.cons.inj heq).1 ▸ h) nofun

theorem toDigits_isDigit (n : Nat) : ∃ c more, Nat.toDigits 10 n = c :: more ∧ c.isDigit = true := by
  rcases Nat.eq_zero_or_pos n with rfl | hpos
  · exact ⟨'0', [], rfl, rfl⟩
  · obtain ⟨c, more, hdigits, -, hisDigit⟩ := toDigits_head hpos
    exact ⟨c, more, hdigits, hisDigit⟩

theorem readsBack_natural (depth : Nat) (n : UInt64) : ReadsBack depth (.number (.natural n)) := by
  intro fuel rest hfuel hrest
  have htext : (compact (.number (.natural n))).toList = Nat.toDigits 10 n.toNat := by
    show (toString n.toNat).toList = _
    exact (congrArg String.toList Nat.repr_eq_ofList_toDigits).trans String.toList_ofList
  have hread := readNumber_toDigits n.toNat_lt hrest
  obtain ⟨c, more, hdigits, hisDigit⟩ := toDigits_isDigit n.toNat
  rw [htext, hdigits] at hfuel ⊢
  rw [hdigits] at hread
  obtain ⟨fuel, rfl⟩ := Nat.exists_eq_add_of_le' (Nat.le_trans (by simp; omega : 1 ≤ _) hfuel)
  rw [List.cons_append, readValue_digit fuel depth hisDigit, ← List.cons_append, hread, ofNat,
    UInt64.ofNat_toNat]

/-! ## Objects -/

/-- A field behind all others is put at the end. -/
theorem insertField_append {key : String} {value : Json} {fields : List (String × Json)}
    (h : ∀ field ∈ fields, field.1 < key) : insertField key value fields = fields ++ [(key, value)] := by
  induction fields with
  | nil => rfl
  | cons field rest ih =>
      obtain ⟨k, v⟩ := field
      obtain ⟨hk, hrest⟩ := List.forall_mem_cons.1 h
      have hne : key ≠ k := by
        rintro rfl
        exact String.lt_irrefl key hk
      rw [insertField, if_neg (String.lt_asymm hk), if_neg hne, ih hrest]
      rfl

/-- What is written of a field. -/
def fieldText (key : String) (value : Json) : List Char :=
  (stringText key).toList ++ ':' :: (compact value).toList

theorem compactFields_single (key : String) (value : Json) :
    (compactFields [(key, value)]).toList = fieldText key value := by
  simp [compactFields, fieldText]

theorem compactFields_cons (key : String) (value : Json) (next : String × Json)
    (rest : List (String × Json)) :
    (compactFields ((key, value) :: next :: rest)).toList =
      fieldText key value ++ ',' :: (compactFields (next :: rest)).toList := by
  simp [compactFields, fieldText]

/-- What is written of fields starts with the quote of a key. -/
theorem compactFields_quote {fields : List (String × Json)} (hne : fields ≠ []) :
    ∃ more, (compactFields fields).toList = '"' :: more := by
  match fields with
  | [] => exact absurd rfl hne
  | [(key, value)] => exact ⟨_, (compactFields_single key value).trans (by simp [fieldText, stringText]; rfl)⟩
  | (key, value) :: next :: rest =>
      exact ⟨_, (compactFields_cons key value next rest).trans (by simp [fieldText, stringText]; rfl)⟩

/-- A field is read, and then what follows it decides. -/
theorem readFields_fieldText {fuel depth : Nat} {key : String} {value : Json} {tail : List Char}
    (done : List (String × Json))
    (hread : readValue fuel depth ((compact value).toList ++ tail) = some (value, tail)) :
    readFields (fuel + 1) depth done (fieldText key value ++ tail) =
      match skipGaps tail with
      | ',' :: after => readFields fuel depth (insertField key value done) after
      | '\x7d' :: after => some (.object (insertField key value done), after)
      | _ => none := by
  have htext : fieldText key value ++ tail = '"' :: (key.toList.flatMap escapedChar ++
      '"' :: ':' :: ((compact value).toList ++ tail)) := by
    simp [fieldText, stringText]
  rw [htext, readFields, skipGaps_cons rfl]
  show (readString (key.toList.flatMap escapedChar ++
    '"' :: ':' :: ((compact value).toList ++ tail)) >>= _) = _
  rw [readString_written]
  dsimp only [bind, Option.bind]
  rw [skipGaps_cons rfl]
  show Option.bind (readValue fuel depth ((compact value).toList ++ tail)) _ = _
  rw [hread]
  rfl

theorem length_fieldText (key : String) (value : Json) :
    (compact value).toList.length + 3 ≤ (fieldText key value).length := by
  simp [fieldText, stringText]

/-- Ascending fields are read one after the other, up to the end of their object. -/
theorem readFields_compactFields {depth fuel : Nat} {fields done : List (String × Json)}
    (hne : fields ≠ []) (hinner : ∀ field ∈ fields, ReadsBack depth field.2)
    (hascending : (done ++ fields).Pairwise fun first second => first.1 < second.1)
    (hfuel : 2 * (compactFields fields).toList.length + 1 ≤ fuel) (rest : List Char) :
    readFields fuel depth done ((compactFields fields).toList ++ '\x7d' :: rest) =
      some (.object (done ++ fields), rest) := by
  induction fields generalizing done fuel with
  | nil => exact absurd rfl hne
  | cons field fields ih =>
      obtain ⟨key, value⟩ := field
      have hvalue : ReadsBack depth value := hinner (key, value) List.mem_cons_self
      have hlast : ∀ earlier ∈ done, earlier.1 < key := fun earlier hearlier =>
        (List.pairwise_append.1 hascending).2.2 earlier hearlier _ List.mem_cons_self
      have hlength := length_fieldText key value
      obtain ⟨fuel, rfl⟩ := Nat.exists_eq_add_of_le' (Nat.le_trans (Nat.le_add_left 1 _) hfuel)
      cases fields with
      | nil =>
          rw [compactFields_single] at hfuel ⊢
          have hread := hvalue fuel ('\x7d' :: rest) (by omega) (Or.inr ⟨rest, Or.inr rfl⟩)
          rw [readFields_fieldText done hread, skipGaps_cons rfl, insertField_append hlast]
          rfl
      | cons next more =>
          rw [compactFields_cons] at hfuel ⊢
          rw [List.length_append, List.length_cons] at hfuel
          rw [List.append_assoc, List.cons_append]
          have hread := hvalue fuel (',' :: ((compactFields (next :: more)).toList ++ '\x7d' :: rest))
            (by omega) (Or.inr ⟨_, Or.inl rfl⟩)
          rw [readFields_fieldText done hread, skipGaps_cons rfl, insertField_append hlast]
          have hmore : done ++ (key, value) :: next :: more = done ++ [(key, value)] ++ next :: more := by
            rw [List.append_assoc]
            rfl
          rw [hmore] at hascending ⊢
          exact ih nofun (List.forall_mem_cons.1 hinner).2 hascending (by omega)

/-- A value that starts with a brace is an object. -/
theorem readValue_brace (fuel depth : Nat) (rest : List Char) :
    readValue (fuel + 1) (depth + 2) ('\x7b' :: rest) =
      match skipGaps rest with
      | '\x7d' :: after => some (.object [], after)
      | inner => readFields fuel (depth + 1) [] inner := by
  rw [readValue, skipGaps_cons rfl]
  exact if_neg (by omega)

theorem readsBack_object {depth : Nat} {fields : List (String × Json)}
    (hascending : fields.Pairwise fun first second => first.1 < second.1)
    (hinner : ∀ field ∈ fields, ReadsBack (depth + 1) field.2) :
    ReadsBack (depth + 2) (.object fields) := by
  intro fuel rest hfuel _
  have htext : (compact (.object fields)).toList = '\x7b' :: ((compactFields fields).toList ++ ['\x7d']) := by
    simp [compact]
  rw [htext] at hfuel ⊢
  rw [List.length_cons, List.length_append, List.length_singleton] at hfuel
  obtain ⟨fuel, rfl⟩ := Nat.exists_eq_add_of_le' (Nat.le_trans (by omega : 1 ≤ _) hfuel)
  rw [List.cons_append, List.append_assoc, List.singleton_append, readValue_brace]
  cases fields with
  | nil => rfl
  | cons field more =>
      have hread := readFields_compactFields (List.cons_ne_nil field more) hinner
        (by rwa [List.nil_append]) (by omega : 2 * _ + 1 ≤ fuel) rest
      obtain ⟨text, htext⟩ := compactFields_quote (List.cons_ne_nil field more)
      rw [htext] at hread ⊢
      exact hread

/-- **What is written of a value is read back**, if it is made of texts, natural numbers and objects. -/
theorem readsBack_of_plain {depth : Nat} {value : Json} (h : Plain depth value) :
    ReadsBack depth value := by
  induction h with
  | string depth s => exact readsBack_string depth s
  | natural depth n => exact readsBack_natural depth n
  | object ascending _ ih => exact readsBack_object ascending ih

theorem read_compact {value : Json} (h : Plain depthLimit value) : read (compact value) = some value := by
  have hread := readsBack_of_plain h (2 * (compact value).toList.length + 2) [] (by omega) (Or.inl rfl)
  rw [List.append_nil] at hread
  rw [read, hread]
  rfl

end PullRequestBot.Json
