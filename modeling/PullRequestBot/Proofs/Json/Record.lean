import PullRequestBot.Json.Decode

set_option autoImplicit false

/-! # Fields of records

What a key leads to after a field was inserted, and what the check of a record says about its fields:
in a checked record every listed field that is there can be decoded (`decodeField_of_checked`). -/

namespace PullRequestBot.Json

variable {α : Type} {key other : String} {value : Json} {fields : List (String × Json)}

/-! ## Looking keys up -/

theorem lookup_cons (key : String) (field : String × Json) (fields : List (String × Json)) :
    lookup key (field :: fields) = if field.1 = key then some field.2 else lookup key fields := by
  by_cases h : field.1 = key
  · rw [if_pos h, lookup, List.find?_cons_of_pos (by simpa using h)]
    rfl
  · rw [if_neg h, lookup, List.find?_cons_of_neg (by simpa using h)]
    rfl

theorem lookup_insertField_of_ne (h : key ≠ other) (value : Json) (fields : List (String × Json)) :
    lookup key (insertField other value fields) = lookup key fields := by
  induction fields with
  | nil =>
      rw [insertField, lookup_cons, if_neg (Ne.symm h)]
  | cons field rest ih =>
      obtain ⟨k, v⟩ := field
      rw [insertField]
      split
      · rw [lookup_cons, if_neg (Ne.symm h)]
      · split
        · next heq =>
            subst heq
            rw [lookup_cons, lookup_cons, if_neg (Ne.symm h), if_neg (Ne.symm h)]
        · rw [lookup_cons, lookup_cons, ih]

theorem lookup_insertField_self (key : String) (value : Json) (fields : List (String × Json)) :
    lookup key (insertField key value fields) = some value := by
  induction fields with
  | nil => rw [insertField, lookup_cons, if_pos rfl]
  | cons field rest ih =>
      obtain ⟨k, v⟩ := field
      rw [insertField]
      split
      · rw [lookup_cons, if_pos rfl]
      · split
        · rw [lookup_cons, if_pos rfl]
        · next hne => rw [lookup_cons, if_neg (Ne.symm hne), ih]

theorem mem_insertField {field : String × Json}
    (h : field ∈ insertField key value fields) : field = (key, value) ∨ field ∈ fields := by
  induction fields with
  | nil => exact Or.inl (List.mem_singleton.1 h)
  | cons first rest ih =>
      obtain ⟨k, v⟩ := first
      rw [insertField] at h
      split at h
      · exact List.mem_cons.1 h
      · split at h
        · exact (List.mem_cons.1 h).imp_right (List.mem_cons_of_mem _)
        · rcases List.mem_cons.1 h with rfl | hrest
          · exact Or.inr List.mem_cons_self
          · exact (ih hrest).imp_right (List.mem_cons_of_mem _)

theorem mem_of_lookup (h : lookup key fields = some value) : (key, value) ∈ fields := by
  obtain ⟨field, hfield, rfl⟩ := Option.map_eq_some_iff.1 h
  have hkey := List.find?_some hfield
  rw [beq_iff_eq] at hkey
  subst hkey
  exact List.mem_of_find?_eq_some hfield

/-! ## Checked records -/

theorem forM_eq_ok {β : Type} {check : β → Except DecodeFailure Unit} {items : List β} :
    items.forM check = .ok () ↔ ∀ item ∈ items, check item = .ok () := by
  induction items with
  | nil => exact iff_of_true rfl nofun
  | cons item rest ih =>
      show (check item >>= fun _ => rest.forM check) = .ok () ↔ _
      rw [List.forall_mem_cons, ← ih]
      cases check item with
      | ok _ => exact (and_iff_right rfl).symm
      | error _ => exact iff_of_false nofun fun h => absurd h.1 nofun

theorem decode_of_check {required : Bool} {decode : Decoder α}
    (h : (Field.of key required decode).check value = .ok ()) : ∃ result, decode value = .ok result := by
  cases hdecode : decode value with
  | ok result => exact ⟨result, rfl⟩
  | error failure =>
      have hcheck : (decode value).map (fun _ => ()) = .ok () := h
      rw [hdecode] at hcheck
      exact absurd hcheck nofun

variable {shape : Shape} {required : Bool} {decode : Decoder α}

/-- A listed field that is there can be decoded if it was checked. -/
theorem decode_of_checked (h : ∀ field ∈ fields, shape.checkField field = .ok ())
    (hlisted : shape.fields.find? (fun known => known.key == key) = some (.of key required decode))
    (hthere : lookup key fields = some value) : ∃ result, decode value = .ok result := by
  have hcheck := h (key, value) (mem_of_lookup hthere)
  rw [Shape.checkField, hlisted] at hcheck
  exact decode_of_check hcheck

/-- A listed field of a checked record can be decoded, or has its default. -/
theorem decodeField_of_checked (h : ∀ field ∈ fields, shape.checkField field = .ok ())
    (hlisted : shape.fields.find? (fun known => known.key == key) = some (.of key required decode))
    (default : α) : ∃ result, decodeField fields key decode default = .ok result := by
  cases hthere : lookup key fields with
  | none => exact ⟨default, by rw [decodeField, hthere]⟩
  | some value =>
      obtain ⟨result, hresult⟩ := decode_of_checked h hlisted hthere
      exact ⟨result, by rw [decodeField, hthere]; exact hresult⟩

/-- The check of an object. -/
theorem Shape.decode_object_iff {checked : List (String × Json)} :
    shape.decode (.object fields) = .ok checked ↔
      (∀ field ∈ fields, shape.checkField field = .ok ()) ∧ shape.missing? fields = none ∧
        checked = fields := by
  rw [Shape.decode, ← forM_eq_ok]
  cases fields.forM shape.checkField with
  | error _ => exact iff_of_false nofun fun h => absurd h.1 nofun
  | ok _ =>
      cases shape.missing? fields with
      | some _ => exact iff_of_false nofun fun h => absurd h.2.1 nofun
      | none =>
          constructor
          · rintro ⟨⟩
            exact ⟨rfl, rfl, rfl⟩
          · rintro ⟨-, -, rfl⟩
            rfl

end PullRequestBot.Json
