import PullRequestBot.HashTable
import PullRequestBot.Settings.KeyPath

set_option autoImplicit false

/-! # Trees with distinct keys

In a tree that is built by setting values, no table has two entries of one key (`Keyed.set`). So what
`get?` finds under a key is all that the table holds under it (`Keyed.get?_eq_some_iff`). What an array
holds does not matter here, and values that are set may be of any kind. -/

namespace PullRequestBot.Settings.Tree

variable {key name : String} {value tree : Tree} {entries : List (String × Tree)}

/-! ## Entries -/

theorem mem_putEntry {entry : String × Tree} (h : entry ∈ putEntry key value entries) :
    entry = (key, value) ∨ entry ∈ entries := by
  induction entries with
  | nil => exact Or.inl (List.mem_singleton.1 h)
  | cons first rest ih =>
      obtain ⟨name, old⟩ := first
      rw [putEntry] at h
      split at h
      · exact (List.mem_cons.1 h).imp_right (List.mem_cons_of_mem _)
      · rcases List.mem_cons.1 h with rfl | h
        · exact Or.inr List.mem_cons_self
        · exact (ih h).imp_right (List.mem_cons_of_mem _)

theorem nodup_putEntry (h : (entries.map Prod.fst).Nodup) :
    ((putEntry key value entries).map Prod.fst).Nodup := by
  induction entries with
  | nil => exact List.pairwise_singleton _ key
  | cons first rest ih =>
      obtain ⟨name, old⟩ := first
      obtain ⟨hnew, hrest⟩ := List.nodup_cons.1 h
      rw [putEntry]
      split
      · next heq => exact heq ▸ h
      · next hne =>
          refine List.nodup_cons.2 ⟨fun hmem => ?_, ih hrest⟩
          obtain ⟨entry, hentry, hname⟩ := List.mem_map.1 hmem
          rcases mem_putEntry hentry with rfl | hold
          · exact hne hname
          · exact hnew (hname ▸ List.mem_map_of_mem hold)

/-! ## Distinct keys -/

/-- Every table in the tree, arrays apart, has at most one entry of each key. -/
inductive Keyed : Tree → Prop where
  | leaf (value : Scalar) (origin : Option String) : Keyed (.leaf value origin)
  | array (items : List Tree) (origin : Option String) : Keyed (.array items origin)
  | table {entries : List (String × Tree)} {origin : Option String}
      (distinct : (entries.map Prod.fst).Nodup) (each : ∀ entry ∈ entries, Keyed entry.2) :
      Keyed (.table entries origin)

theorem keyed_empty : Keyed empty :=
  .table List.nodup_nil nofun

theorem keyed_nothing : Keyed nothing :=
  .leaf _ _

theorem Keyed.distinct (h : Keyed tree) : (tree.entries.map Prod.fst).Nodup := by
  cases h with
  | leaf _ _ | array _ _ => exact List.nodup_nil
  | table distinct _ => exact distinct

/-- Under a key stands exactly what the table holds under it. -/
theorem Keyed.get?_eq_some_iff (h : Keyed tree) :
    tree.get? key = some value ↔ (key, value) ∈ tree.entries := by
  cases h with
  | leaf _ _ | array _ _ => simp [get?, Tree.entries]
  | table distinct _ => exact HashTable.lookup_eq_some_iff distinct

theorem Keyed.get? (h : Keyed tree) (hvalue : tree.get? key = some value) : Keyed value := by
  have hmem := h.get?_eq_some_iff.1 hvalue
  cases h with
  | leaf _ _ | array _ _ => exact absurd hmem List.not_mem_nil
  | table _ each => exact each _ hmem

theorem Keyed.getD_nothing (h : Keyed tree) (key : String) :
    Keyed ((tree.get? key).getD nothing) := by
  cases hvalue : tree.get? key with
  | none => exact keyed_nothing
  | some value => exact h.get? hvalue

theorem Keyed.asTable (h : Keyed tree) : Keyed tree.asTable := by
  cases h with
  | leaf _ _ | array _ _ => exact keyed_empty
  | table distinct each => exact .table distinct each

theorem Keyed.put (h : Keyed tree) (hvalue : Keyed value) (key : String) :
    Keyed (tree.put key value) := by
  cases h with
  | leaf _ _ | array _ _ =>
      exact .table ((List.pairwise_singleton _ key)) (List.forall_mem_singleton.2 hvalue)
  | table distinct each =>
      refine .table (nodup_putEntry distinct) fun entry hentry => ?_
      rcases mem_putEntry hentry with rfl | hold
      · exact hvalue
      · exact each entry hold

/-- The tree is a table. -/
def IsTable : Tree → Prop
  | .table _ _ => True
  | _ => False

instance : DecidablePred IsTable
  | .table _ _ => inferInstanceAs (Decidable True)
  | .leaf _ _ | .array _ _ => inferInstanceAs (Decidable False)

/-! ## Setting -/

mutual

theorem Keyed.merge {old : Tree} (h : Keyed old) : (value : Tree) → Keyed (value.merge old)
  | .leaf _ _ => .leaf _ _
  | .array _ _ => .array _ _
  | .table entries _ => h.asTable.mergeEntries entries

theorem Keyed.mergeEntries {old : Tree} (h : Keyed old) :
    (entries : List (String × Tree)) → Keyed (Tree.mergeEntries entries old)
  | [] => h
  | (key, value) :: rest =>
    (h.put ((h.getD_nothing key).merge value) key).mergeEntries rest

end

theorem Keyed.setAt {old : Tree} (h : Keyed old) (value : Tree) (steps : List Step) :
    Keyed (Tree.setAt value steps old) := by
  induction steps generalizing old with
  | nil => exact h.merge value
  | cons step rest ih =>
      cases step with
      | key name => exact h.put (ih (h.getD_nothing name)) name
      | index number => exact .array _ _

/-- Setting a value keeps keys distinct. -/
theorem Keyed.set (h : Keyed tree) (path : KeyPath) (value : Tree) : Keyed (tree.set path value) :=
  h.setAt value path.fromTop

end PullRequestBot.Settings.Tree
