set_option autoImplicit false

/-! # Hash tables

A hash table keeps one value under each key, the last one it was given, and it is walked in an order that is
left to chance. Here a table is the row of entries it was given (`standing`), and chance is a row of numbers
that it draws (`arrange`): every order of the entries can be drawn, and no other row
(`exists_arrange_iff`). What stands under a key does not depend on the draws (`lookup_walk`). -/

namespace PullRequestBot.HashTable

variable {α κ ν : Type}

/-! ## An order that chance draws -/

/-- The items in the order that chance draws: each has as many of those after it behind itself as is drawn
    for it, or all. -/
def arrange : List Nat → List α → List α
  | _, [] => []
  | draws, item :: rest =>
    let others := arrange draws.tail rest
    let place := others.length - draws.headD 0
    others.take place ++ item :: others.drop place

theorem arrange_perm (draws : List Nat) (items : List α) : (arrange draws items).Perm items := by
  induction items generalizing draws with
  | nil => exact List.Perm.refl _
  | cons item rest ih =>
      refine List.perm_middle.trans (List.Perm.cons item ?_)
      rw [List.take_append_drop]
      exact ih draws.tail

/-- Chance can draw every order, and nothing else. -/
theorem exists_arrange_iff {items arranged : List α} :
    (∃ draws, arrange draws items = arranged) ↔ arranged.Perm items := by
  refine ⟨fun ⟨draws, h⟩ => h ▸ arrange_perm draws items, fun h => ?_⟩
  induction items generalizing arranged with
  | nil => exact ⟨[], h.eq_nil.symm⟩
  | cons item rest ih =>
      obtain ⟨front, back, rfl⟩ := List.append_of_mem (h.mem_iff.2 List.mem_cons_self)
      obtain ⟨draws, hdraws⟩ := ih (List.perm_middle.symm.trans h).cons_inv
      refine ⟨back.length :: draws, ?_⟩
      simp [arrange, hdraws]

/-! ## Entries -/

/-- Among entries with distinct keys, a look-up finds every one of them. -/
theorem lookup_eq_some_iff [DecidableEq κ] {entries : List (κ × ν)} (h : (entries.map Prod.fst).Nodup)
    {key : κ} {value : ν} : entries.lookup key = some value ↔ (key, value) ∈ entries := by
  induction entries with
  | nil => simp
  | cons first rest ih =>
      obtain ⟨name, old⟩ := first
      obtain ⟨hnew, hrest⟩ := List.nodup_cons.1 h
      by_cases heq : key = name
      · subst heq
        have hother : (key, value) ∉ rest := fun hmem =>
          hnew (List.mem_map.2 ⟨(key, value), hmem, rfl⟩)
        simp [hother, eq_comm]
      · simp [List.lookup_cons, beq_eq_false_iff_ne.2 heq, heq, ih hrest]

variable [DecidableEq κ] {entries : List (κ × ν)} {key : κ} {value : ν}

/-- The entries that stand in a table after all of them were put into it: of those with one key, the last. -/
def standing : List (κ × ν) → List (κ × ν)
  | [] => []
  | entry :: rest => if entry.1 ∈ rest.map Prod.fst then standing rest else entry :: standing rest

theorem standing_sublist (entries : List (κ × ν)) : (standing entries).Sublist entries := by
  induction entries with
  | nil => exact List.Sublist.refl _
  | cons entry rest ih =>
      rw [standing]
      split
      · exact ih.cons _
      · exact ih.cons_cons _

theorem nodup_standing (entries : List (κ × ν)) : ((standing entries).map Prod.fst).Nodup := by
  induction entries with
  | nil => exact List.nodup_nil
  | cons entry rest ih =>
      rw [standing]
      split
      · exact ih
      · next hlast =>
          exact List.nodup_cons.2 ⟨fun hmem => hlast (((standing_sublist rest).map _).subset hmem), ih⟩

theorem mem_keys_standing_iff : key ∈ (standing entries).map Prod.fst ↔ key ∈ entries.map Prod.fst := by
  induction entries with
  | nil => exact Iff.rfl
  | cons entry rest ih =>
      rw [standing]
      split
      · next hlater =>
          rw [ih, List.map_cons, List.mem_cons]
          exact ⟨Or.inr, fun h => h.elim (fun heq => heq ▸ hlater) id⟩
      · rw [List.map_cons, List.map_cons, List.mem_cons, List.mem_cons, ih]

theorem lookup_eq_none_iff : entries.lookup key = none ↔ key ∉ entries.map Prod.fst := by
  rw [List.lookup_eq_none_iff]
  constructor
  · intro h hmem
    obtain ⟨entry, hentry, hsame⟩ := List.mem_map.1 hmem
    exact bne_iff_ne.1 (h entry hentry) hsame.symm
  · intro h entry hentry
    exact bne_iff_ne.2 fun hsame => h (hsame ▸ List.mem_map_of_mem hentry)

/-- Under a key stands the last value that was put there. -/
theorem lookup_standing (entries : List (κ × ν)) (key : κ) :
    (standing entries).lookup key = entries.reverse.lookup key := by
  induction entries with
  | nil => rfl
  | cons entry rest ih =>
      obtain ⟨name, value⟩ := entry
      rw [standing, List.reverse_cons, List.lookup_append, ← ih]
      by_cases hkey : key = name
      · subst hkey
        split
        · next hlater =>
            cases hfound : (standing rest).lookup key with
            | none => exact absurd (mem_keys_standing_iff.2 hlater) (lookup_eq_none_iff.1 hfound)
            | some value => rfl
        · next hlast =>
            rw [lookup_eq_none_iff.2 fun hmem => hlast (mem_keys_standing_iff.1 hmem)]
            simp
      · split
        · simp [List.lookup_cons, beq_eq_false_iff_ne.2 hkey]
        · simp [List.lookup_cons, beq_eq_false_iff_ne.2 hkey]

/-- The entries that stand in a table, in the order in which chance walks it. -/
def walk (draws : List Nat) (entries : List (κ × ν)) : List (κ × ν) :=
  arrange draws (standing entries)

theorem mem_of_mem_walk {draws : List Nat} {entry : κ × ν} (h : entry ∈ walk draws entries) :
    entry ∈ entries :=
  (standing_sublist entries).subset ((arrange_perm draws _).mem_iff.1 h)

theorem nodup_walk (draws : List Nat) (entries : List (κ × ν)) :
    ((walk draws entries).map Prod.fst).Nodup :=
  ((arrange_perm draws _).map Prod.fst).nodup_iff.2 (nodup_standing entries)

/-- On every walk, the entry of a key is the last one that was put there. -/
theorem mem_walk_iff (draws : List Nat) :
    (key, value) ∈ walk draws entries ↔ entries.reverse.lookup key = some value := by
  rw [walk, (arrange_perm draws _).mem_iff, ← lookup_standing, lookup_eq_some_iff (nodup_standing entries)]

/-- On every walk, a look-up finds the last value that was put under a key. -/
theorem lookup_walk (draws : List Nat) (entries : List (κ × ν)) (key : κ) :
    (walk draws entries).reverse.lookup key = entries.reverse.lookup key := by
  have hnodup : ((walk draws entries).reverse.map Prod.fst).Nodup :=
    ((List.reverse_perm _).map Prod.fst).nodup_iff.2 (nodup_walk draws entries)
  refine Option.ext fun value => ?_
  rw [lookup_eq_some_iff hnodup, List.mem_reverse, mem_walk_iff]

end PullRequestBot.HashTable
