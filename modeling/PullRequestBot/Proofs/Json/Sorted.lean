import PullRequestBot.Proofs.Json.Record

set_option autoImplicit false

/-! # The order of fields

A value lists the fields of an object in ascending order, a written one in any. `sorted` puts the fields of
all objects into their order. As long as each key is there once, this rearranges them (`ofFields_perm`), and
a key leads to the same value before and after (`lookup_perm`). -/

namespace PullRequestBot.Json

/-! ## Sorted values -/

mutual

/-- The value with the fields of all objects in ascending order. -/
def sorted : Json → Json
  | .array items => .array (sortedItems items)
  | .object fields => ofFields (sortedFields fields)
  | value => value

/-- The items of an array, sorted one by one. -/
def sortedItems : List Json → List Json
  | [] => []
  | item :: rest => item.sorted :: sortedItems rest

/-- Fields with their values sorted, in their order. -/
def sortedFields : List (String × Json) → List (String × Json)
  | [] => []
  | (key, value) :: rest => (key, value.sorted) :: sortedFields rest

end

@[simp] theorem sortedItems_eq_map (items : List Json) : sortedItems items = items.map sorted := by
  induction items with
  | nil => rfl
  | cons item rest ih => rw [sortedItems, ih, List.map_cons]

/-! ## Rearranged fields -/

variable {key : String} {value : Json} {fields fields' : List (String × Json)}

theorem insertField_perm (h : key ∉ fields.map Prod.fst) :
    (insertField key value fields).Perm ((key, value) :: fields) := by
  induction fields with
  | nil => exact List.Perm.refl _
  | cons field rest ih =>
      obtain ⟨k, v⟩ := field
      rw [List.map_cons, List.mem_cons, not_or] at h
      rw [insertField, if_neg h.1]
      split
      · exact List.Perm.refl _
      · exact ((ih h.2).cons (k, v)).trans (List.Perm.swap _ _ _)

theorem foldl_insertField_perm (done : List (String × Json))
    (h : ((done ++ fields).map Prod.fst).Nodup) :
    (fields.foldl (fun done field => insertField field.1 field.2 done) done).Perm (done ++ fields) := by
  induction fields generalizing done with
  | nil => rw [List.append_nil]; exact List.Perm.refl _
  | cons field rest ih =>
      obtain ⟨k, v⟩ := field
      -- the field that comes next is new, since all keys together are distinct
      have hswap : ((k, v) :: (done ++ rest)).Perm (done ++ (k, v) :: rest) := List.perm_middle.symm
      have hdistinct : (((k, v) :: (done ++ rest)).map Prod.fst).Nodup := (hswap.map _).nodup_iff.2 h
      have hfresh : k ∉ done.map Prod.fst := by
        intro hmem
        rw [List.map_cons, List.nodup_cons, List.map_append, List.mem_append] at hdistinct
        exact hdistinct.1 (Or.inl hmem)
      have hinsert : (insertField k v done ++ rest).Perm ((k, v) :: (done ++ rest)) :=
        (insertField_perm hfresh).append_right rest
      exact (ih _ ((hinsert.map _).nodup_iff.2 hdistinct)).trans (hinsert.trans hswap)

/-- Fields with distinct keys are only rearranged. -/
theorem ofFields_perm (h : (fields.map Prod.fst).Nodup) :
    ∃ arranged, ofFields fields = .object arranged ∧ arranged.Perm fields :=
  ⟨_, rfl, foldl_insertField_perm [] h⟩

theorem mem_iff_lookup (h : (fields.map Prod.fst).Nodup) :
    (key, value) ∈ fields ↔ lookup key fields = some value := by
  refine ⟨fun hmem => ?_, mem_of_lookup⟩
  induction fields with
  | nil => exact absurd hmem nofun
  | cons field rest ih =>
      rw [List.map_cons, List.nodup_cons] at h
      rcases List.mem_cons.1 hmem with rfl | hrest
      · rw [lookup_cons, if_pos rfl]
      · have hother : field.1 ≠ key := by
          rintro rfl
          exact h.1 (List.mem_map.2 ⟨(field.1, value), hrest, rfl⟩)
        rw [lookup_cons, if_neg hother, ih h.2 hrest]

/-- The order of fields with distinct keys does not matter to what a key leads to. -/
theorem lookup_perm (hdistinct : (fields.map Prod.fst).Nodup) (h : fields'.Perm fields) (key : String) :
    lookup key fields' = lookup key fields := by
  have hdistinct' : (fields'.map Prod.fst).Nodup := (h.map _).nodup_iff.2 hdistinct
  refine Option.ext fun value => ?_
  rw [← mem_iff_lookup hdistinct', ← mem_iff_lookup hdistinct]
  exact h.mem_iff

end PullRequestBot.Json
