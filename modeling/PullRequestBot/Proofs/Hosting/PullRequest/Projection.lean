import PullRequestBot.Proofs.Hosting.PullRequest.Trimming
import PullRequestBot.Proofs.Json.Place

set_option autoImplicit false

/-! # Trimming is a projection

What is kept of a value is found in the value at the same places, trimmed there by what is kept at that place
(`at?_trim`), and trimming it again changes nothing (`trim_trim`). A field that no list names does not matter,
wherever a list applies (`trim_changeAt`). What is kept and the value are walked together: a key leads to a
part of both, but an index into an array stays with the same list of fields. -/

namespace PullRequestBot

open Json (Step changeAt changeField insertField lookup removeField)

namespace Keep

variable {list : List (String × Keep)} {key : String} {fields : List (String × Json)} {value : Json}

/-! ## Trimming twice -/

mutual

theorem trim_trim (keep : Keep) : (value : Json) → keep.trim (keep.trim value) = keep.trim value
  | .null | .bool _ | .number _ | .string _ => rfl
  | .array items =>
    match keep with
    | .all => rfl
    | .only list => congrArg Json.array (trimItems_trimItems (.only list) items)
  | .object fields =>
    match keep with
    | .all => rfl
    | .only list => congrArg Json.object (trimFields_trimFields list fields)

theorem trimItems_trimItems (keep : Keep) : (items : List Json) →
    trimItems keep (trimItems keep items) = trimItems keep items
  | [] => rfl
  | item :: rest => by
    rw [trimItems, trimItems, trim_trim keep item, trimItems_trimItems keep rest]

theorem trimFields_trimFields (list : List (String × Keep)) : (fields : List (String × Json)) →
    trimFields list (trimFields list fields) = trimFields list fields
  | [] => rfl
  | (key, value) :: rest => by
    rw [trimFields]
    split
    · next keep hlisted =>
        rw [trimFields, hlisted]
        dsimp only
        rw [trim_trim keep value, trimFields_trimFields list rest]
    · exact trimFields_trimFields list rest

end

/-! ## What is kept at a place -/

/-- What is kept of the part that steps lead to, if anything. A list of fields applies to all items of an
    array, however deep arrays are nested. -/
def along : List Step → Keep → Option Keep
  | [], keep => some keep
  | _ :: _, .all => some .all
  | .key name :: rest, .only list => (list.lookup name).bind (along rest)
  | .index _ :: rest, .only list => along rest (.only list)

theorem along_all (steps : List Step) : along steps .all = some .all := by
  cases steps with
  | nil | cons _ _ => rfl

/-- What is kept stands where it stood, trimmed by what is kept there. -/
theorem at?_trim (steps : List Step) (keep : Keep) (value : Json) :
    (keep.trim value).at? steps = (keep.along steps).bind fun kept => (value.at? steps).map kept.trim := by
  induction steps generalizing keep value with
  | nil => rfl
  | cons step rest ih =>
      cases keep with
      | all =>
          rw [along_all, trim_all, Option.bind_some, funext trim_all]
          exact (congrFun Option.map_id _).symm
      | only list =>
          cases step with
          | key name =>
              cases value with
              | object fields =>
                  rw [trim, along, Json.at?, Json.at?, lookup_trimFields]
                  cases list.lookup name with
                  | none => rfl
                  | some keep =>
                      cases lookup name fields with
                      | none => simp
                      | some inner => exact ih keep inner
              | _ => simp [trim, Json.at?]
          | index i =>
              cases value with
              | array items =>
                  rw [trim, along, Json.at?, Json.at?, trimItems_eq_map, List.getElem?_map]
                  cases items[i]? with
                  | none => simp
                  | some item => exact ih (.only list) item
              | _ => simp [trim, Json.at?]

theorem isContainer_trim (keep : Keep) (value : Json) :
    (keep.trim value).isContainer = value.isContainer := by
  cases value with
  | array _ | object _ => cases keep <;> rfl
  | _ => rfl

/-- What holds no other values is kept as it is. -/
theorem trim_of_not_isContainer (keep : Keep) (h : value.isContainer = false) : keep.trim value = value := by
  cases value with
  | array _ | object _ => exact absurd h nofun
  | _ => rfl

/-- Arrays are kept with all their items. -/
theorem array_of_trim {keep : Keep} {items : List Json} (h : keep.trim value = .array items) :
    ∃ whole, value = .array whole ∧ items.length = whole.length := by
  cases value with
  | array whole =>
      refine ⟨whole, rfl, ?_⟩
      cases keep with
      | all =>
          rw [trim_all] at h
          rw [Json.array.inj h]
      | only list =>
          rw [trim, trimItems_eq_map] at h
          rw [← Json.array.inj h, List.length_map]
  | object fields => cases keep <;> exact absurd h nofun
  | _ => exact absurd h nofun

/-! ## Fields that no list names -/

theorem trimFields_insertField (h : list.lookup key = none) (value : Json) (fields : List (String × Json)) :
    trimFields list (insertField key value fields) = trimFields list fields := by
  induction fields with
  | nil => simp [insertField, trimFields, h]
  | cons field rest ih =>
      obtain ⟨k, v⟩ := field
      rw [insertField]
      split
      · rw [trimFields, h]
      · split
        · next heq =>
            subst heq
            rw [trimFields, trimFields, h]
        · rw [trimFields, trimFields, ih]

theorem trimFields_filter (h : list.lookup key = none) (fields : List (String × Json)) :
    trimFields list (fields.filter fun field => field.1 ≠ key) = trimFields list fields := by
  induction fields with
  | nil => rfl
  | cons field rest ih =>
      obtain ⟨k, v⟩ := field
      by_cases heq : k = key
      · subst heq
        rw [List.filter_cons_of_neg (by simp), trimFields, h]
        exact ih
      · rw [List.filter_cons_of_pos (by simpa using heq), trimFields, trimFields, ih]

theorem trim_setField (h : list.lookup key = none) (content value : Json) :
    (Keep.only list).trim (value.setField key content) = (Keep.only list).trim value := by
  cases value with
  | object fields => exact congrArg Json.object (trimFields_insertField h content fields)
  | _ => rfl

theorem trim_removeField (h : list.lookup key = none) (value : Json) :
    (Keep.only list).trim (value.removeField key) = (Keep.only list).trim value := by
  cases value with
  | object fields => exact congrArg Json.object (trimFields_filter h fields)
  | _ => rfl

theorem trimFields_changeField {change : Json → Json}
    (h : ∀ keep value, list.lookup key = some keep → keep.trim (change value) = keep.trim value)
    (fields : List (String × Json)) :
    trimFields list (changeField change key fields) = trimFields list fields := by
  induction fields with
  | nil => rfl
  | cons field rest ih =>
      obtain ⟨k, v⟩ := field
      rw [changeField, List.map_cons, ← changeField]
      by_cases heq : k = key
      · subst heq
        rw [if_pos rfl, trimFields, trimFields, ih]
        cases hlisted : list.lookup k with
        | none => rfl
        | some keep => exact congrArg (fun kept => (k, kept) :: trimFields list rest) (h keep v hlisted)
      · rw [if_neg heq, trimFields, trimFields, ih]

theorem trimItems_modify {change : Json → Json} {keep : Keep}
    (h : ∀ value, keep.trim (change value) = keep.trim value) (i : Nat) (items : List Json) :
    trimItems keep (items.modify i change) = trimItems keep items := by
  rw [trimItems_eq_map, trimItems_eq_map]
  refine List.ext_getElem? fun j => ?_
  rw [List.getElem?_map, List.getElem?_map, List.getElem?_modify]
  cases items[j]? with
  | none => rfl
  | some item =>
      show some (keep.trim (if i = j then change item else item)) = some (keep.trim item)
      split
      · rw [h item]
      · rfl

/-- A change that the list which applies at a place does not see is not seen at all. -/
theorem trim_changeAt {change : Json → Json} {keep : Keep} {steps : List Step}
    (hsteps : keep.along steps = some (.only list))
    (hchange : ∀ value, (Keep.only list).trim (change value) = (Keep.only list).trim value) (value : Json) :
    keep.trim (changeAt change steps value) = keep.trim value := by
  induction steps generalizing keep value with
  | nil =>
      obtain rfl := Option.some.inj hsteps
      exact hchange value
  | cons step rest ih =>
      cases keep with
      | all =>
          rw [along_all] at hsteps
          exact absurd hsteps nofun
      | only outer =>
          cases step with
          | key name =>
              cases value with
              | object fields =>
                  refine congrArg Json.object (trimFields_changeField (fun keep value hlisted => ?_) fields)
                  rw [along, hlisted] at hsteps
                  exact ih hsteps value
              | _ => rfl
          | index i =>
              cases value with
              | array items =>
                  exact congrArg Json.array (trimItems_modify (fun value => ih hsteps value) i items)
              | _ => rfl

/-! ## Where a list of fields applies -/

/-- The keys among the steps. -/
def names (steps : List Step) : List String :=
  steps.filterMap fun
    | .key name => some name
    | .index _ => none

/-- Indices do not matter to what is kept. -/
theorem along_names (steps : List Step) (keep : Keep) :
    keep.along ((names steps).map Step.key) = keep.along steps := by
  induction steps generalizing keep with
  | nil => rfl
  | cons step rest ih =>
      cases keep with
      | all => rw [along_all, along_all]
      | only list =>
          cases step with
          | key name => exact congrArg (list.lookup name).bind (funext fun keep => ih keep)
          | index i => exact ih (.only list)

end Keep

namespace PullRequest

/-- The fields that are kept of the objects in a response, by the keys that lead to them. -/
def keptNames : List (List String × List String) := [
  ([], ["ETag", "Last-Modified", "id", "number", "html_url", "state", "created_at", "updated_at", "closed_at",
    "merged_at", "merged", "mergeable", "mergeable_state", "labels", "head", "base"]),
  (["labels"], ["name"]),
  (["head"], ["ref", "label", "repo"]),
  (["head", "repo"], ["name"]),
  (["base"], ["ref", "repo"]),
  (["base", "repo"], ["name"])]

theorem along_of_mem_keptNames {steps : List Step} {listed : List String} {key : String}
    (h : (Keep.names steps, listed) ∈ keptNames) (hkey : key ∉ listed) :
    ∃ list, Keep.pullRequest.along steps = some (.only list) ∧ list.lookup key = none := by
  have hlist : ∃ list, Keep.pullRequest.along steps = some (.only list) ∧ list.map Prod.fst = listed := by
    rw [← Keep.along_names]
    generalize Keep.names steps = names at h
    simp only [keptNames, List.mem_cons, List.not_mem_nil, or_false, Prod.mk.injEq] at h
    rcases h with ⟨rfl, rfl⟩ | ⟨rfl, rfl⟩ | ⟨rfl, rfl⟩ | ⟨rfl, rfl⟩ | ⟨rfl, rfl⟩ | ⟨rfl, rfl⟩ <;>
      exact ⟨_, rfl, rfl⟩
  obtain ⟨list, hsteps, rfl⟩ := hlist
  refine ⟨list, hsteps, List.lookup_eq_none_iff.2 fun field hfield => ?_⟩
  rw [bne_iff_ne]
  rintro rfl
  exact hkey (List.mem_map_of_mem hfield)

/-- **Trimming is a projection.** Trimming what is left changes nothing. Whatever is left and holds no other
    values stands at the same place before, and so does every array, with as many items. Setting or
    removing a field that is not kept, in an object at any place where a list of fields applies, changes
    nothing of what is left. Of the value that is replaced by what is left, nothing is left. -/
theorem trim_is_projection (value : Json) :
    trim (trim value) = trim value ∧
      (∀ steps leaf, (trim value).at? steps = some leaf → leaf.isContainer = false →
        value.at? steps = some leaf) ∧
      (∀ steps items, (trim value).at? steps = some (.array items) →
        ∃ whole, value.at? steps = some (.array whole) ∧ items.length = whole.length) ∧
      (∀ steps listed key, (Keep.names steps, listed) ∈ keptNames → key ∉ listed →
        (∀ content, trim (changeAt (fun inner => inner.setField key content) steps value) = trim value) ∧
          trim (changeAt (fun inner => inner.removeField key) steps value) = trim value) ∧
      ∀ target, trimInto target value = trim value := by
  have hplace {steps : List Step} {found : Json} (h : (trim value).at? steps = some found) :
      ∃ keep part, value.at? steps = some part ∧ Keep.trim keep part = found := by
    rw [trim, Keep.at?_trim] at h
    obtain ⟨keep, -, hfound⟩ := Option.bind_eq_some_iff.1 h
    obtain ⟨part, hpart, hkept⟩ := Option.map_eq_some_iff.1 hfound
    exact ⟨keep, part, hpart, hkept⟩
  refine ⟨Keep.trim_trim _ value, fun steps leaf hleaf hsingle => ?_, fun steps items hitems => ?_,
    fun steps listed key hlisted hkey => ?_, fun _ => rfl⟩
  · obtain ⟨keep, part, hpart, rfl⟩ := hplace hleaf
    rw [Keep.isContainer_trim] at hsingle
    rw [hpart, Keep.trim_of_not_isContainer keep hsingle]
  · obtain ⟨keep, part, hpart, hkept⟩ := hplace hitems
    obtain ⟨whole, rfl, hlength⟩ := Keep.array_of_trim hkept
    exact ⟨whole, hpart, hlength⟩
  · obtain ⟨list, hsteps, hnone⟩ := along_of_mem_keptNames hlisted hkey
    exact ⟨fun content => Keep.trim_changeAt hsteps (Keep.trim_setField hnone content) value,
      Keep.trim_changeAt hsteps (Keep.trim_removeField hnone) value⟩

/-- The case of a name, of the array of labels, and of the color of a label, which is not kept. -/
theorem merged_response_projected :
    let value := Json.object mergedResponse
    let color : List Step := [.key "labels", .index 0]
    (trim value).at? [.key "head", .key "repo", .key "name"] = some (.string "polars-feedstock") ∧
      value.at? [.key "head", .key "repo", .key "name"] = some (.string "polars-feedstock") ∧
      (∃ items whole, (trim value).at? [.key "labels"] = some (.array items) ∧
        value.at? [.key "labels"] = some (.array whole) ∧ items.length = whole.length) ∧
      changeAt (fun inner => inner.removeField "color") color value ≠ value ∧
      trim (changeAt (fun inner => inner.removeField "color") color value) = trim value := by
  intro value color
  obtain ⟨-, hleaves, harrays, hfields, -⟩ := trim_is_projection value
  have hname : (trim value).at? [.key "head", .key "repo", .key "name"] =
      some (.string "polars-feedstock") := rfl
  obtain ⟨whole, hwhole, hlength⟩ := harrays [.key "labels"] _ rfl
  have hchanged : changeAt (fun inner => inner.removeField "color") color value ≠ value := by
    intro hsame
    have hcolor := congrArg (Json.at? [.key "labels", .index 0, .key "color"]) hsame
    exact absurd hcolor nofun
  exact ⟨hname, hleaves _ _ hname rfl, ⟨_, whole, rfl, hwhole, hlength⟩, hchanged,
    (hfields color ["name"] "color" (by decide) (by decide)).2⟩

end PullRequest

end PullRequestBot
