import PullRequestBot.Proofs.Json.Spelling

set_option autoImplicit false

/-! # The texts that are read

`read` finds the value of a text if and only if the grammar gives the text that value, with nesting of at most
127 levels (`read_eq_some_iff`). One way, what the grammar derives is read (`readsAs_of_spells`), by induction
on the derivation: each rule is one branch of the reader, and blanks behind a value may stay unread. The other
way, what is read is derived (`derives_value`), by induction on the fuel. -/

namespace PullRequestBot.Json

/-! ## Blanks -/

variable {gaps cs rest : List Char}

theorem gaps_nil : Gaps [] := nofun

theorem skipGaps_append (h : Gaps gaps) (cs : List Char) : skipGaps (gaps ++ cs) = skipGaps cs :=
  List.dropWhile_append_of_pos h

/-- What is skipped are blanks. -/
theorem exists_gaps (cs : List Char) : ∃ gaps, Gaps gaps ∧ cs = gaps ++ skipGaps cs :=
  ⟨cs.takeWhile isGap, List.all_eq_true.1 List.all_takeWhile, List.takeWhile_append_dropWhile.symm⟩

theorem skipGaps_skipGaps (cs : List Char) : skipGaps (skipGaps cs) = skipGaps cs := by
  obtain ⟨gaps, hgaps, hcs⟩ := exists_gaps cs
  rw [← skipGaps_append hgaps (skipGaps cs), ← hcs]

/-- What may follow a value. -/
def Follows (rest : List Char) : Prop :=
  ∀ c ∈ rest.head?, isGap c = true ∨ c = ',' ∨ c = ']' ∨ c = '\x7d'

theorem follows_gaps (h : Gaps gaps) (hrest : Follows rest) : Follows (gaps ++ rest) := by
  cases gaps with
  | nil => exact hrest
  | cons c more =>
      intro d hd
      obtain rfl : c = d := Option.some.inj hd
      exact Or.inl (h c List.mem_cons_self)

theorem follows_cons {c : Char} (h : isGap c = true ∨ c = ',' ∨ c = ']' ∨ c = '\x7d')
    (more : List Char) : Follows (c :: more) := by
  intro d hd
  obtain rfl : c = d := Option.some.inj hd
  exact h

theorem follows_comma (more : List Char) : Follows (',' :: more) :=
  follows_cons (Or.inr (Or.inl rfl)) more

theorem follows_bracket (more : List Char) : Follows (']' :: more) :=
  follows_cons (Or.inr (Or.inr (Or.inl rfl))) more

theorem follows_brace (more : List Char) : Follows ('\x7d' :: more) :=
  follows_cons (Or.inr (Or.inr (Or.inr rfl))) more

theorem Follows.stops (h : Follows rest) (numeral : Numeral) : numeral.Stops rest := by
  intro c hc
  rcases h c hc with hgap | rfl | rfl | rfl
  · rw [isGap] at hgap
    simp only [Bool.or_eq_true, decide_eq_true_eq] at hgap
    rcases hgap with ((rfl | rfl) | rfl) | rfl <;>
      exact ⟨rfl, fun _ => ⟨by decide, by decide, fun _ => by decide⟩⟩
  all_goals exact ⟨rfl, fun _ => ⟨by decide, by decide, fun _ => by decide⟩⟩

/-! ## Texts between commas -/

theorem joined_single {α : Type} (text : α → List Char) (thing : α) :
    joined text [thing] = text thing := by
  simp [joined, List.intercalate]

theorem joined_cons {α : Type} (text : α → List Char) (thing next : α) (more : List α) :
    joined text (thing :: next :: more) = text thing ++ ',' :: joined text (next :: more) := by
  simp [joined, List.intercalate]

section Skipped

variable (fuel depth : Nat)

theorem readValue_skipGaps (cs : List Char) :
    readValue fuel depth (skipGaps cs) = readValue fuel depth cs := by
  cases fuel with
  | zero => rfl
  | succ fuel => rw [readValue, readValue, skipGaps_skipGaps]

theorem readItems_skipGaps (done : List Json) (cs : List Char) :
    readItems fuel depth done (skipGaps cs) = readItems fuel depth done cs := by
  cases fuel with
  | zero => rfl
  | succ fuel => rw [readItems, readItems, readValue_skipGaps]

theorem readFields_skipGaps (done : List (String × Json)) (cs : List Char) :
    readFields fuel depth done (skipGaps cs) = readFields fuel depth done cs := by
  cases fuel with
  | zero => rfl
  | succ fuel => rw [readFields, readFields, skipGaps_skipGaps]

theorem readValue_gaps (h : Gaps gaps) (cs : List Char) :
    readValue fuel depth (gaps ++ cs) = readValue fuel depth cs := by
  rw [← readValue_skipGaps, skipGaps_append h, readValue_skipGaps]

end Skipped

/-! ## What the grammar derives is read -/

/-- With that many levels of nesting left, a text is read as the value, whatever follows. Of the blanks behind
    it some may be left. -/
def ReadsAs (depth : Nat) (text : List Char) (value : Json) : Prop :=
  ∀ fuel rest, 2 * text.length ≤ fuel → Follows rest →
    ∃ left, readValue fuel (depth + 1) (text ++ rest) = some (value, left) ∧ skipGaps left = skipGaps rest

section Derived

variable {depth : Nat} {text : List Char} {value : Json}

/-- A text that begins with one more character takes one more unit of fuel. -/
theorem readsAs_of_succ {c : Char} {more : List Char}
    (h : ∀ fuel rest, 2 * more.length + 1 ≤ fuel → Follows rest →
      readValue (fuel + 1) (depth + 1) (c :: (more ++ rest)) = some (value, rest)) :
    ReadsAs depth (c :: more) value := by
  intro fuel rest hfuel hrest
  rw [List.length_cons] at hfuel
  obtain ⟨fuel, rfl⟩ := Nat.exists_eq_add_of_le' (Nat.le_trans (by omega : 1 ≤ _) hfuel)
  exact ⟨rest, h fuel rest (by omega) hrest, rfl⟩

theorem ReadsAs.padded {before after : List Char} (hbefore : Gaps before) (hafter : Gaps after)
    (h : ReadsAs depth text value) : ReadsAs depth (before ++ text ++ after) value := by
  intro fuel rest hfuel hrest
  rw [List.length_append, List.length_append] at hfuel
  obtain ⟨left, hread, hleft⟩ := h fuel (after ++ rest) (by omega) (follows_gaps hafter hrest)
  refine ⟨left, ?_, hleft.trans (skipGaps_append hafter rest)⟩
  rw [List.append_assoc, List.append_assoc, readValue_gaps _ _ hbefore, hread]

theorem readsAs_number {numeral : Numeral} (h : numeral.value? = some value) :
    ReadsAs depth numeral.chars value := by
  obtain ⟨c, more, hchars⟩ := List.exists_cons_of_ne_nil numeral.whole.ne_nil
  have hdigit : c.isDigit = true := numeral.whole.isDigit c (hchars ▸ List.mem_cons_self)
  have hunsigned : numeral.unsigned = c :: (more ++ numeral.ending) := by
    rw [Numeral.unsigned, hchars]
    rfl
  have hread : ∀ rest, Follows rest →
      readNumber numeral.minus (numeral.unsigned ++ rest) = some (value, rest) := fun rest hrest => by
    rw [readNumber_numeral numeral (hrest.stops numeral), h]
    rfl
  unfold Numeral.chars
  split
  · next hminus =>
      refine readsAs_of_succ fun fuel rest _ hrest => ?_
      rw [readValue, skipGaps_cons rfl]
      show readNumber true _ = _
      rw [← hminus, hread rest hrest]
  · next hplus =>
      rw [hunsigned]
      refine readsAs_of_succ fun fuel rest _ hrest => ?_
      rw [readValue_digit fuel _ hdigit, ← List.cons_append, ← hunsigned,
        ← Bool.eq_false_iff.2 hplus, hread rest hrest]

theorem readsAs_string {s : String} (h : SpellsChars text s.toList) :
    ReadsAs depth ('"' :: (text ++ ['"'])) (.string s) := by
  refine readsAs_of_succ fun fuel rest _ _ => ?_
  rw [readValue, skipGaps_cons rfl]
  show (readString (text ++ ['"'] ++ rest)).map _ = _
  rw [List.append_assoc, List.singleton_append, readString_spellsChars h]
  rfl

/-! ### Arrays -/

theorem readValue_bracket (fuel depth : Nat) (rest : List Char) :
    readValue (fuel + 1) (depth + 2) ('[' :: rest) =
      match skipGaps rest with
      | ']' :: after => some (.array [], after)
      | inner => readItems fuel (depth + 1) [] inner := by
  rw [readValue, skipGaps_cons rfl]
  exact if_neg (by omega)

/-- A bracket that is closed at once. -/
theorem readValue_closed_bracket {rest after : List Char} (h : skipGaps rest = ']' :: after)
    (fuel depth : Nat) : readValue (fuel + 1) (depth + 2) ('[' :: rest) = some (.array [], after) := by
  rw [readValue_bracket, h]
  rfl

/-- A bracket in front of items. -/
theorem readValue_open_bracket {rest : List Char} (h : ∀ after, skipGaps rest ≠ ']' :: after)
    (fuel depth : Nat) :
    readValue (fuel + 1) (depth + 2) ('[' :: rest) = readItems fuel (depth + 1) [] rest := by
  rw [readValue_bracket, ← readItems_skipGaps]
  split
  · next heq => exact absurd heq (h _)
  · rfl

/-- No item starts with a closing bracket. -/
theorem readItems_closed {rest after : List Char} (h : skipGaps rest = ']' :: after) (fuel depth : Nat)
    (done : List Json) : readItems fuel depth done rest = none := by
  rw [← readItems_skipGaps, h]
  rcases fuel with _ | _ | fuel <;> rfl

section Items

variable {fuel : Nat} {left after : List Char} {done : List Json}

theorem readItems_comma (h : readValue fuel depth cs = some (value, left))
    (hleft : skipGaps left = ',' :: after) :
    readItems (fuel + 1) depth done cs = readItems fuel depth (value :: done) after := by
  rw [readItems, h]
  dsimp only [bind, Option.bind]
  rw [hleft]
  rfl

theorem readItems_close (h : readValue fuel depth cs = some (value, left))
    (hleft : skipGaps left = ']' :: after) :
    readItems (fuel + 1) depth done cs = some (.array (done.reverse ++ [value]), after) := by
  rw [readItems, h]
  dsimp only [bind, Option.bind]
  rw [hleft, ← List.reverse_cons]
  rfl

end Items

/-- The items of an array are read one after the other. -/
theorem readItems_joined {items : List (List Char × Json)} (hne : items ≠ [])
    (hitems : ∀ item ∈ items, ReadsAs depth item.1 item.2) {fuel : Nat} (done : List Json)
    (hfuel : 2 * (joined Prod.fst items).length + 1 ≤ fuel) (rest : List Char) :
    readItems fuel (depth + 1) done (joined Prod.fst items ++ ']' :: rest) =
      some (.array (done.reverse ++ items.map Prod.snd), rest) := by
  induction items generalizing fuel done with
  | nil => exact absurd rfl hne
  | cons item items ih =>
      obtain ⟨hitem, hmore⟩ := List.forall_mem_cons.1 hitems
      obtain ⟨fuel, rfl⟩ := Nat.exists_eq_add_of_le' (Nat.le_trans (Nat.le_add_left 1 _) hfuel)
      cases items with
      | nil =>
          rw [joined_single] at hfuel ⊢
          obtain ⟨left, hread, hleft⟩ := hitem fuel (']' :: rest) (by omega) (follows_bracket rest)
          exact readItems_close hread hleft
      | cons next more =>
          rw [joined_cons] at hfuel ⊢
          rw [List.length_append, List.length_cons] at hfuel
          rw [List.append_assoc, List.cons_append]
          obtain ⟨left, hread, hleft⟩ := hitem fuel _ (by omega)
            (follows_comma (joined Prod.fst (next :: more) ++ ']' :: rest))
          rw [readItems_comma hread hleft, ih nofun hmore _ (by omega), List.reverse_cons,
            List.append_assoc]
          rfl

theorem readsAs_emptyArray (h : Gaps gaps) : ReadsAs (depth + 1) ('[' :: (gaps ++ [']'])) (.array []) := by
  refine readsAs_of_succ fun fuel rest _ _ => ?_
  rw [List.append_assoc]
  exact readValue_closed_bracket (skipGaps_append h _) fuel depth

theorem readsAs_array {items : List (List Char × Json)} (hne : items ≠ [])
    (hitems : ∀ item ∈ items, ReadsAs depth item.1 item.2) :
    ReadsAs (depth + 1) ('[' :: (joined Prod.fst items ++ [']'])) (.array (items.map Prod.snd)) := by
  refine readsAs_of_succ fun fuel rest hfuel _ => ?_
  rw [List.length_append] at hfuel
  have hread := readItems_joined hne hitems [] (by omega : _ ≤ fuel) rest
  rw [List.append_assoc, List.singleton_append, readValue_open_bracket, hread]
  · rfl
  · intro after hafter
    rw [readItems_closed hafter] at hread
    exact absurd hread nofun

/-! ### Objects -/

/-- A brace that is closed at once. -/
theorem readValue_closed_brace {rest after : List Char} (h : skipGaps rest = '\x7d' :: after)
    (fuel depth : Nat) : readValue (fuel + 1) (depth + 2) ('\x7b' :: rest) = some (.object [], after) := by
  rw [readValue_brace, h]
  rfl

/-- A brace in front of fields. -/
theorem readValue_open_brace {rest : List Char} (h : ∀ after, skipGaps rest ≠ '\x7d' :: after)
    (fuel depth : Nat) :
    readValue (fuel + 1) (depth + 2) ('\x7b' :: rest) = readFields fuel (depth + 1) [] rest := by
  rw [readValue_brace, ← readFields_skipGaps]
  split
  · next heq => exact absurd heq (h _)
  · rfl

/-- No field starts with a closing brace. -/
theorem readFields_closed {rest after : List Char} (h : skipGaps rest = '\x7d' :: after) (fuel depth : Nat)
    (done : List (String × Json)) : readFields fuel depth done rest = none := by
  rw [← readFields_skipGaps, h]
  cases fuel <;> rfl

section Fields

variable {fuel : Nat} {field : WrittenField} {tail left after : List Char} {done : List (String × Json)}

/-- A field is read, and then what follows it decides. -/
theorem readFields_text (h : readValue fuel depth (field.valueText ++ tail) = some (field.value, left)) :
    readFields (fuel + 1) depth done (field.text ++ tail) =
      match skipGaps left with
      | ',' :: after => readFields fuel depth (insertField field.key field.value done) after
      | '\x7d' :: after => some (.object (insertField field.key field.value done), after)
      | _ => none := by
  have htext : field.text ++ tail = field.before ++ '"' :: (field.keyText ++ '"' ::
      (field.between ++ ':' :: (field.valueText ++ tail))) := by
    simp [WrittenField.text]
  rw [htext, readFields, skipGaps_append field.gaps_before, skipGaps_cons rfl]
  show (readString (field.keyText ++ '"' :: _) >>= _) = _
  rw [readString_spellsChars field.spells_key]
  dsimp only [bind, Option.bind]
  rw [skipGaps_append field.gaps_between, skipGaps_cons rfl]
  show Option.bind (readValue fuel depth (field.valueText ++ tail)) _ = _
  rw [h]
  rfl

theorem readFields_comma (h : readValue fuel depth (field.valueText ++ tail) = some (field.value, left))
    (hleft : skipGaps left = ',' :: after) :
    readFields (fuel + 1) depth done (field.text ++ tail) =
      readFields fuel depth (insertField field.key field.value done) after := by
  rw [readFields_text h, hleft]
  rfl

theorem readFields_close (h : readValue fuel depth (field.valueText ++ tail) = some (field.value, left))
    (hleft : skipGaps left = '\x7d' :: after) :
    readFields (fuel + 1) depth done (field.text ++ tail) =
      some (.object (insertField field.key field.value done), after) := by
  rw [readFields_text h, hleft]
  rfl

end Fields

theorem length_valueText_lt (field : WrittenField) : field.valueText.length < field.text.length := by
  simp [WrittenField.text]
  omega

/-- Fields that were read before, with more fields put among them. -/
def insertFields (done : List (String × Json)) (fields : List WrittenField) : List (String × Json) :=
  fields.foldl (fun done field => insertField field.key field.value done) done

theorem object_insertFields (fields : List WrittenField) :
    Json.object (insertFields [] fields) = ofFields (fields.map WrittenField.field) := by
  rw [ofFields, List.foldl_map]
  rfl

/-- The fields of an object are read one after the other. -/
theorem readFields_joined {fields : List WrittenField} (hne : fields ≠ [])
    (hfields : ∀ field ∈ fields, ReadsAs depth field.valueText field.value) {fuel : Nat}
    (done : List (String × Json)) (hfuel : 2 * (joined WrittenField.text fields).length + 1 ≤ fuel)
    (rest : List Char) :
    readFields fuel (depth + 1) done (joined WrittenField.text fields ++ '\x7d' :: rest) =
      some (.object (insertFields done fields), rest) := by
  induction fields generalizing fuel done with
  | nil => exact absurd rfl hne
  | cons field fields ih =>
      obtain ⟨hfield, hmore⟩ := List.forall_mem_cons.1 hfields
      have hlength := length_valueText_lt field
      obtain ⟨fuel, rfl⟩ := Nat.exists_eq_add_of_le' (Nat.le_trans (Nat.le_add_left 1 _) hfuel)
      cases fields with
      | nil =>
          rw [joined_single] at hfuel ⊢
          obtain ⟨left, hread, hleft⟩ := hfield fuel ('\x7d' :: rest) (by omega) (follows_brace rest)
          exact readFields_close hread hleft
      | cons next more =>
          rw [joined_cons] at hfuel ⊢
          rw [List.length_append, List.length_cons] at hfuel
          rw [List.append_assoc, List.cons_append]
          obtain ⟨left, hread, hleft⟩ := hfield fuel _ (by omega)
            (follows_comma (joined WrittenField.text (next :: more) ++ '\x7d' :: rest))
          rw [readFields_comma hread hleft, ih nofun hmore _ (by omega)]
          rfl

theorem readsAs_emptyObject (h : Gaps gaps) :
    ReadsAs (depth + 1) ('\x7b' :: (gaps ++ ['\x7d'])) (.object []) := by
  refine readsAs_of_succ fun fuel rest _ _ => ?_
  rw [List.append_assoc]
  exact readValue_closed_brace (skipGaps_append h _) fuel depth

theorem readsAs_object {fields : List WrittenField} (hne : fields ≠ [])
    (hfields : ∀ field ∈ fields, ReadsAs depth field.valueText field.value) :
    ReadsAs (depth + 1) ('\x7b' :: (joined WrittenField.text fields ++ ['\x7d']))
      (ofFields (fields.map WrittenField.field)) := by
  refine readsAs_of_succ fun fuel rest hfuel _ => ?_
  rw [List.length_append] at hfuel
  have hread := readFields_joined hne hfields [] (by omega : _ ≤ fuel) rest
  rw [List.append_assoc, List.singleton_append, readValue_open_brace, hread, object_insertFields]
  intro after hafter
  rw [readFields_closed hafter] at hread
  exact absurd hread nofun

theorem readsAs_word {word : List Char} (h : ∀ fuel rest,
    readValue (fuel + 1) (depth + 1) (word ++ rest) = some (value, rest)) (hne : word ≠ []) :
    ReadsAs depth word value := by
  obtain ⟨c, more, rfl⟩ := List.exists_cons_of_ne_nil hne
  exact readsAs_of_succ fun fuel rest _ _ => h fuel rest

/-- **What the grammar derives is read.** -/
theorem readsAs_of_spells (h : Spells depth text value) : ReadsAs depth text value := by
  induction h with
  | padded hbefore hafter _ ih => exact ih.padded hbefore hafter
  | null depth => exact readsAs_word (fun _ _ => rfl) nofun
  | true depth => exact readsAs_word (fun _ _ => rfl) nofun
  | false depth => exact readsAs_word (fun _ _ => rfl) nofun
  | number depth valued => exact readsAs_number valued
  | string depth spelt => exact readsAs_string spelt
  | emptyArray depth isGaps => exact readsAs_emptyArray isGaps
  | array ne _ ih => exact readsAs_array ne ih
  | emptyObject depth isGaps => exact readsAs_emptyObject isGaps
  | object ne _ ih => exact readsAs_object ne ih

end Derived

/-! ## What is read is derived -/

/-- With that much fuel, only values are read that the grammar derives. -/
def DerivesValue (fuel : Nat) : Prop :=
  ∀ depth cs value rest, readValue fuel depth cs = some (value, rest) →
    ∃ text, cs = text ++ rest ∧ Spells (depth - 1) text value

/-- With that much fuel, only items are read that the grammar derives. -/
def DerivesItems (fuel : Nat) : Prop :=
  ∀ depth done cs value rest, readItems fuel (depth + 1) done cs = some (value, rest) →
    ∃ items : List (List Char × Json), items ≠ [] ∧ cs = joined Prod.fst items ++ ']' :: rest ∧
      value = .array (done.reverse ++ items.map Prod.snd) ∧ ∀ item ∈ items, Spells depth item.1 item.2

/-- With that much fuel, only fields are read that the grammar derives. -/
def DerivesFields (fuel : Nat) : Prop :=
  ∀ depth done cs value rest, readFields fuel (depth + 1) done cs = some (value, rest) →
    ∃ fields : List WrittenField, fields ≠ [] ∧
      cs = joined WrittenField.text fields ++ '\x7d' :: rest ∧
      value = .object (insertFields done fields) ∧
      ∀ field ∈ fields, Spells depth field.valueText field.value

section Read

variable {fuel depth : Nat} {value : Json}

/-- The blanks behind a value belong to it. -/
theorem Spells.gaps_behind {text : List Char} (h : Spells depth text value) (hgaps : Gaps gaps) :
    Spells depth (text ++ gaps) value :=
  h.padded gaps_nil hgaps

/-- What is read of items begins with one that is derived. A comma and the rest of them follow, or the end. -/
theorem exists_item (hvalue : DerivesValue fuel) {done : List Json}
    (h : readItems (fuel + 1) (depth + 1) done cs = some (value, rest)) :
    ∃ item : List Char × Json, Spells depth item.1 item.2 ∧
      ((∃ after, cs = item.1 ++ ',' :: after ∧
          readItems fuel (depth + 1) (item.2 :: done) after = some (value, rest)) ∨
        cs = item.1 ++ ']' :: rest ∧ value = .array (done.reverse ++ [item.2])) := by
  rw [readItems] at h
  obtain ⟨⟨item, left⟩, hitem, hleft⟩ := Option.bind_eq_some_iff.1 h
  obtain ⟨text, rfl, hspells⟩ := hvalue _ _ _ _ hitem
  obtain ⟨gaps, hgaps, hsplit⟩ := exists_gaps left
  refine ⟨(text ++ gaps, item), hspells.gaps_behind hgaps, ?_⟩
  rw [hsplit, ← List.append_assoc]
  dsimp only at hleft
  split at hleft
  · next after heq => exact Or.inl ⟨after, by rw [heq], hleft⟩
  · next after heq =>
      obtain ⟨rfl, rfl⟩ := Prod.mk.inj (Option.some.inj hleft)
      exact Or.inr ⟨by rw [heq], by rw [List.reverse_cons]⟩
  · exact absurd hleft nofun

theorem derivesItems_succ (hvalue : DerivesValue fuel) (hitems : DerivesItems fuel) :
    DerivesItems (fuel + 1) := by
  intro depth done cs value rest h
  obtain ⟨item, hspells, ⟨after, rfl, hafter⟩ | ⟨rfl, rfl⟩⟩ := exists_item hvalue h
  · obtain ⟨items, hne, rfl, rfl, hall⟩ := hitems _ _ _ _ _ hafter
    obtain ⟨next, more, rfl⟩ := List.exists_cons_of_ne_nil hne
    refine ⟨item :: next :: more, nofun, ?_, ?_, List.forall_mem_cons.2 ⟨hspells, hall⟩⟩
    · rw [joined_cons, List.append_assoc]
      rfl
    · rw [List.reverse_cons, List.append_assoc]
      rfl
  · exact ⟨[item], nofun, by rw [joined_single], rfl, List.forall_mem_singleton.2 hspells⟩

/-- What is read of fields begins with one that is derived. A comma and the rest of them follow, or the
    end. -/
theorem exists_field (hvalue : DerivesValue fuel) {done : List (String × Json)}
    (h : readFields (fuel + 1) (depth + 1) done cs = some (value, rest)) :
    ∃ field : WrittenField, Spells depth field.valueText field.value ∧
      ((∃ after, cs = field.text ++ ',' :: after ∧
          readFields fuel (depth + 1) (insertField field.key field.value done) after = some (value, rest)) ∨
        cs = field.text ++ '\x7d' :: rest ∧ value = .object (insertField field.key field.value done)) := by
  obtain ⟨before, hbefore, hcs⟩ := exists_gaps cs
  rw [readFields] at h
  split at h
  · next inner hinner =>
      obtain ⟨⟨key, afterKey⟩, hkey, hbehind⟩ := Option.bind_eq_some_iff.1 h
      obtain ⟨keyText, rfl, hspellsKey⟩ := exists_string hkey
      obtain ⟨between, hbetween, hafterKey⟩ := exists_gaps afterKey
      dsimp only at hbehind
      split at hbehind
      · next afterColon hcolon =>
          obtain ⟨⟨inside, left⟩, hinside, hleft⟩ := Option.bind_eq_some_iff.1 hbehind
          obtain ⟨text, rfl, hspells⟩ := hvalue _ _ _ _ hinside
          obtain ⟨gaps, hgaps, hsplit⟩ := exists_gaps left
          let field : WrittenField :=
            ⟨key, inside, before, keyText, between, text ++ gaps, hbefore, hspellsKey, hbetween⟩
          have htext : cs = field.text ++ skipGaps left := by
            rw [hcs, hinner, hafterKey, hcolon, hsplit]
            simp [field, WrittenField.text, skipGaps_append hgaps, skipGaps_skipGaps]
          refine ⟨field, hspells.gaps_behind hgaps, ?_⟩
          dsimp only at hleft
          split at hleft
          · next after heq => exact Or.inl ⟨after, by rw [htext, heq], hleft⟩
          · next after heq =>
              obtain ⟨rfl, rfl⟩ := Prod.mk.inj (Option.some.inj hleft)
              exact Or.inr ⟨by rw [htext, heq], rfl⟩
          · exact absurd hleft nofun
      · exact absurd hbehind nofun
  · exact absurd h nofun

theorem derivesFields_succ (hvalue : DerivesValue fuel) (hfields : DerivesFields fuel) :
    DerivesFields (fuel + 1) := by
  intro depth done cs value rest h
  obtain ⟨field, hspells, ⟨after, rfl, hafter⟩ | ⟨rfl, rfl⟩⟩ := exists_field hvalue h
  · obtain ⟨fields, hne, rfl, rfl, hall⟩ := hfields _ _ _ _ _ hafter
    obtain ⟨next, more, rfl⟩ := List.exists_cons_of_ne_nil hne
    refine ⟨field :: next :: more, nofun, ?_, rfl, List.forall_mem_cons.2 ⟨hspells, hall⟩⟩
    rw [joined_cons, List.append_assoc]
    rfl
  · exact ⟨[field], nofun, by rw [joined_single], rfl, List.forall_mem_singleton.2 hspells⟩

/-- An array that is read is derived. -/
theorem derives_bracket (hitems : DerivesItems fuel) {inner : List Char}
    (h : readValue (fuel + 1) (depth + 2) ('[' :: inner) = some (value, rest)) :
    ∃ text, inner = text ++ rest ∧ Spells (depth + 1) ('[' :: text) value := by
  by_cases hclosed : ∃ after, skipGaps inner = ']' :: after
  · obtain ⟨after, hafter⟩ := hclosed
    obtain ⟨gaps, hgaps, hinner⟩ := exists_gaps inner
    rw [readValue_closed_bracket hafter] at h
    obtain ⟨rfl, rfl⟩ := Prod.mk.inj (Option.some.inj h)
    refine ⟨gaps ++ [']'], ?_, .emptyArray depth hgaps⟩
    rw [List.append_assoc, List.singleton_append, ← hafter, ← hinner]
  · rw [readValue_open_bracket fun after hafter => hclosed ⟨after, hafter⟩] at h
    obtain ⟨items, hne, rfl, rfl, hall⟩ := hitems _ _ _ _ _ h
    refine ⟨joined Prod.fst items ++ [']'], ?_, .array hne hall⟩
    rw [List.append_assoc, List.singleton_append]

/-- An object that is read is derived. -/
theorem derives_brace (hfields : DerivesFields fuel) {inner : List Char}
    (h : readValue (fuel + 1) (depth + 2) ('\x7b' :: inner) = some (value, rest)) :
    ∃ text, inner = text ++ rest ∧ Spells (depth + 1) ('\x7b' :: text) value := by
  by_cases hclosed : ∃ after, skipGaps inner = '\x7d' :: after
  · obtain ⟨after, hafter⟩ := hclosed
    obtain ⟨gaps, hgaps, hinner⟩ := exists_gaps inner
    rw [readValue_closed_brace hafter] at h
    obtain ⟨rfl, rfl⟩ := Prod.mk.inj (Option.some.inj h)
    refine ⟨gaps ++ ['\x7d'], ?_, .emptyObject depth hgaps⟩
    rw [List.append_assoc, List.singleton_append, ← hafter, ← hinner]
  · rw [readValue_open_brace fun after hafter => hclosed ⟨after, hafter⟩] at h
    obtain ⟨fields, hne, rfl, rfl, hall⟩ := hfields _ _ _ _ _ h
    refine ⟨joined WrittenField.text fields ++ ['\x7d'], ?_, ?_⟩
    · rw [List.append_assoc, List.singleton_append]
    · rw [object_insertFields]
      exact .object hne hall

/-- A word that is read is derived. -/
theorem derives_word {word : List Char} {known : Json} (h : readWord word known cs = some (value, rest)) :
    cs = word ++ rest ∧ value = known := by
  obtain ⟨hstarts, heq⟩ := Option.ite_none_right_eq_some.1 h
  obtain ⟨rfl, rfl⟩ := Prod.mk.inj (Option.some.inj heq)
  obtain ⟨more, rfl⟩ := List.isPrefixOf_iff_prefix.1 hstarts
  exact ⟨by rw [List.drop_left], rfl⟩

/-- What is read in front of no blanks is derived. -/
theorem derives_tight (hitems : DerivesItems fuel) (hfields : DerivesFields fuel) {depth : Nat}
    (htight : skipGaps cs = cs) (h : readValue (fuel + 1) depth cs = some (value, rest)) :
    ∃ text, cs = text ++ rest ∧ Spells (depth - 1) text value := by
  have hread := h
  rw [readValue, htight] at hread
  split at hread
  · exact absurd hread.symm (Option.some_ne_none _)
  · next inner =>
      obtain ⟨⟨s, after⟩, hstring, heq⟩ := Option.map_eq_some_iff.1 hread
      obtain ⟨rfl, rfl⟩ := Prod.mk.inj heq
      obtain ⟨text, rfl, hspells⟩ := exists_string hstring
      exact ⟨'"' :: (text ++ ['"']), by simp, .string _ hspells⟩
  · next inner =>
      obtain ⟨hdepth, -⟩ := Option.ite_none_left_eq_some.1 hread
      obtain ⟨depth, rfl⟩ := Nat.exists_eq_add_of_le' (Nat.lt_of_not_le hdepth)
      obtain ⟨text, rfl, hspells⟩ := derives_bracket hitems h
      exact ⟨'[' :: text, rfl, hspells⟩
  · next inner =>
      obtain ⟨hdepth, -⟩ := Option.ite_none_left_eq_some.1 hread
      obtain ⟨depth, rfl⟩ := Nat.exists_eq_add_of_le' (Nat.lt_of_not_le hdepth)
      obtain ⟨text, rfl, hspells⟩ := derives_brace hfields h
      exact ⟨'\x7b' :: text, rfl, hspells⟩
  · next inner =>
      obtain ⟨numeral, hminus, rfl, hvalued⟩ := exists_numeral hread
      refine ⟨numeral.chars, ?_, .number _ hvalued⟩
      rw [Numeral.chars, if_pos hminus]
      rfl
  · obtain ⟨rfl, rfl⟩ := derives_word hread
    exact ⟨['n', 'u', 'l', 'l'], rfl, .null _⟩
  · obtain ⟨rfl, rfl⟩ := derives_word hread
    exact ⟨['t', 'r', 'u', 'e'], rfl, .true _⟩
  · obtain ⟨rfl, rfl⟩ := derives_word hread
    exact ⟨['f', 'a', 'l', 's', 'e'], rfl, .false _⟩
  · obtain ⟨numeral, hminus, rfl, hvalued⟩ := exists_numeral hread
    refine ⟨numeral.chars, ?_, .number _ hvalued⟩
    rw [Numeral.chars, if_neg (hminus ▸ Bool.false_ne_true)]

theorem derivesValue_succ (hitems : DerivesItems fuel) (hfields : DerivesFields fuel) :
    DerivesValue (fuel + 1) := by
  intro depth cs value rest h
  obtain ⟨gaps, hgaps, hcs⟩ := exists_gaps cs
  rw [← readValue_skipGaps] at h
  obtain ⟨text, htext, hspells⟩ := derives_tight hitems hfields (skipGaps_skipGaps cs) h
  refine ⟨gaps ++ text ++ [], ?_, hspells.padded hgaps gaps_nil⟩
  rw [hcs, htext, List.append_nil, List.append_assoc]

theorem derives (fuel : Nat) : DerivesValue fuel ∧ DerivesItems fuel ∧ DerivesFields fuel := by
  induction fuel with
  | zero => exact ⟨fun _ _ _ _ h => absurd h nofun, fun _ _ _ _ _ h => absurd h nofun,
      fun _ _ _ _ _ h => absurd h nofun⟩
  | succ fuel ih =>
      obtain ⟨hvalue, hitems, hfields⟩ := ih
      exact ⟨derivesValue_succ hitems hfields, derivesItems_succ hvalue hitems,
        derivesFields_succ hvalue hfields⟩

end Read

/-! ## Whole texts -/

/-- **The reader reads exactly the texts that the grammar derives**, nested at most 127 levels deep, and finds
    the value that is written. -/
theorem read_eq_some_iff {text : String} {value : Json} :
    read text = some value ↔ Spells 127 text.toList value := by
  constructor
  · intro h
    unfold read at h
    dsimp only at h
    split at h
    · next value' rest hread =>
        obtain ⟨hend, heq⟩ := Option.ite_none_right_eq_some.1 h
        obtain ⟨written, hwritten, hspells⟩ := (derives _).1 _ _ _ _ hread
        obtain ⟨gaps, hgaps, hrest⟩ := exists_gaps rest
        rw [List.isEmpty_iff.1 hend, List.append_nil] at hrest
        rw [← Option.some.inj heq, hwritten, hrest]
        exact hspells.gaps_behind hgaps
    · exact absurd h nofun
  · intro h
    obtain ⟨left, hread, hleft⟩ := readsAs_of_spells h (2 * text.toList.length + 2) [] (by omega) nofun
    rw [List.append_nil] at hread
    unfold read
    dsimp only
    rw [show depthLimit = 127 + 1 from rfl, hread]
    show (if (skipGaps left).isEmpty then some value else none) = some value
    rw [hleft]
    rfl

end PullRequestBot.Json
