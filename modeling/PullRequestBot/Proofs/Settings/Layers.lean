import PullRequestBot.Proofs.Settings.Reading

set_option autoImplicit false

/-! # Layers of raw settings

All that goes into a tree of raw settings are assignments of values to places, one after the other. Each of
them says something of some settings (`says?`). As long as sections stay tables, what is read of a setting
in the end is what the last assignment says that says anything of it (`takes_setAll`). -/

namespace PullRequestBot.Settings.Tree

variable {setting : Setting} {tree value old : Tree} {key : String}
  {assignments : List (KeyPath × Tree)} {given : Option Tree}

/-! ## Assignments -/

/-- Carries out assignments one after the other. -/
def setAll (assignments : List (KeyPath × Tree)) (tree : Tree) : Tree :=
  assignments.foldl (fun tree assignment => tree.set assignment.1 assignment.2) tree

theorem setAll_append (first second : List (KeyPath × Tree)) (tree : Tree) :
    setAll (first ++ second) tree = setAll second (setAll first tree) :=
  List.foldl_append

/-- What an assignment says of a setting: the value, if it is one at the place of the setting, or what a
    table in place of the section has under the key of the setting. -/
def says? (setting : Setting) (assignment : KeyPath × Tree) : Option Tree :=
  if assignment.1 = setting.path then some assignment.2
  else if assignment.1 = ⟨setting.group.name, []⟩ then
    assignment.2.entries.reverse.lookup setting.key
  else none

/-- An assignment keeps sections tables: a section gets a table or something under one of its keys, and
    is not taken for an array. -/
def KeepsSections : KeyPath × Tree → Prop
  | (⟨root, []⟩, value) => root ∈ Section.names → value.IsTable
  | (⟨_, .key _ :: _⟩, _) => True
  | (⟨root, .index _ :: _⟩, _) => root ∉ Section.names

instance : DecidablePred KeepsSections
  | (⟨root, []⟩, value) => inferInstanceAs (Decidable (root ∈ Section.names → value.IsTable))
  | (⟨_, .key _ :: _⟩, _) => inferInstanceAs (Decidable True)
  | (⟨root, .index _ :: _⟩, _) => inferInstanceAs (Decidable (root ∉ Section.names))

/-- An assignment keeps one section a table. -/
def KeepsSection (group : Section) : KeyPath × Tree → Prop
  | (⟨root, []⟩, value) => root = group.name → value.IsTable
  | (path, _) => path.Spares group

theorem KeepsSections.keepsSection {assignment : KeyPath × Tree} (h : KeepsSections assignment)
    (group : Section) : KeepsSection group assignment := by
  obtain ⟨⟨root, steps⟩, value⟩ := assignment
  match steps, h with
  | [], h => exact fun hroot => h (hroot ▸ group.name_mem_names)
  | .key _ :: _, _ => exact trivial
  | .index _ :: _, h => exact fun hroot => h (hroot ▸ group.name_mem_names)

theorem keepsSection_of_spares {path : KeyPath} {group : Section} (h : path.Spares group) (value : Tree) :
    KeepsSection group (path, value) := by
  obtain ⟨root, steps⟩ := path
  match steps, h with
  | [], h => exact fun hroot => absurd hroot h
  | .key _ :: _, _ => exact trivial
  | .index _ :: _, h => exact h

/-! ## Sections that are tables -/

/-- A tree holds what was set under the root of the path, and under other keys what it held. -/
theorem get?_set (tree value : Tree) (path : KeyPath) (name : String) :
    (tree.set path value).get? name =
      if name = path.root then some (Tree.setAt value path.steps ((tree.get? path.root).getD nothing))
      else tree.get? name :=
  get?_put _ _ _ _

theorem isTable_put (tree : Tree) (key : String) (value : Tree) : (tree.put key value).IsTable := by
  cases tree <;> exact trivial

theorem isTable_asTable (tree : Tree) : tree.asTable.IsTable := by
  cases tree <;> exact trivial

theorem IsTable.mergeEntries (h : old.IsTable) (entries : List (String × Tree)) :
    (Tree.mergeEntries entries old).IsTable := by
  induction entries generalizing old with
  | nil => exact h
  | cons entry rest ih =>
      rw [Tree.mergeEntries]
      exact ih (isTable_put _ _ _)

/-- A section is a table, if it is there. -/
def HasSection (tree : Tree) (group : Section) : Prop :=
  ∀ found, tree.get? group.name = some found → found.IsTable

theorem hasSection_empty (group : Section) : HasSection empty group := nofun

theorem HasSection.set {path : KeyPath} {group : Section} (htree : tree.HasSection group)
    (h : KeepsSection group (path, value)) : (tree.set path value).HasSection group := by
  obtain ⟨root, steps⟩ := path
  intro found hfound
  rw [get?_set] at hfound
  dsimp only at hfound
  split at hfound
  · next hroot =>
      obtain rfl := Option.some.inj hfound
      cases steps with
      | nil =>
          have htable := h hroot.symm
          cases value with
          | leaf _ _ | array _ _ => exact htable.elim
          | table entries _ => exact (isTable_asTable _).mergeEntries entries
      | cons step rest =>
          cases step with
          | key name => exact isTable_put _ _ _
          | index number => exact absurd hroot.symm h
  · exact htree found hfound

theorem HasSection.setAll {group : Section} (htree : tree.HasSection group)
    (h : ∀ assignment ∈ assignments, KeepsSection group assignment) :
    (setAll assignments tree).HasSection group := by
  induction assignments generalizing tree with
  | nil => exact htree
  | cons assignment rest ih =>
      obtain ⟨hassignment, hrest⟩ := List.forall_mem_cons.1 h
      exact ih (htree.set hassignment) hrest

theorem Keyed.setAll (h : tree.Keyed) (assignments : List (KeyPath × Tree)) :
    (setAll assignments tree).Keyed := by
  induction assignments generalizing tree with
  | nil => exact h
  | cons assignment rest ih => exact ih (h.set _ _)

/-! ## What a tree shows of a setting -/

/-- The tree itself, if it is a leaf. -/
def leaf? : Tree → Option Tree
  | .leaf value origin => some (.leaf value origin)
  | _ => none

theorem IsTable.leaf? (h : tree.IsTable) : tree.leaf? = none := by
  cases tree with
  | leaf value origin | array items origin => exact h.elim
  | table entries origin => rfl

/-- What stands for a setting: nothing, a leaf, or something else. -/
def shown (tree : Tree) (setting : Setting) : Option (Option Tree) :=
  (tree.at? setting).map Tree.leaf?

/-- A section that is not there shows nothing. -/
theorem shown_eq (tree : Tree) (setting : Setting) : tree.shown setting =
    (((tree.get? setting.group.name).getD nothing).get? setting.key).map Tree.leaf? := by
  rw [shown, at?]
  cases tree.get? setting.group.name with
  | none => rfl
  | some group => rfl

theorem shown_put (tree value : Tree) (root : String) (setting : Setting) :
    (tree.put root value).shown setting =
      if setting.group.name = root then (value.get? setting.key).map Tree.leaf?
      else tree.shown setting := by
  rw [shown, at?, get?_put]
  by_cases hroot : setting.group.name = root
  · rw [if_pos hroot, if_pos hroot]
    rfl
  · rw [if_neg hroot, if_neg hroot]
    rfl

/-- Whether a value leaves a leaf at a place does not depend on what was there. -/
theorem leaf?_merge (value old : Tree) : (value.merge old).leaf? = value.leaf? := by
  cases value with
  | leaf _ _ | array _ _ => rfl
  | table entries _ => exact ((isTable_asTable old).mergeEntries entries).leaf?

theorem get?_asTable (tree : Tree) (key : String) : tree.asTable.get? key = tree.get? key := by
  cases tree <;> rfl

theorem put_asTable (tree : Tree) (key : String) (value : Tree) :
    tree.asTable.put key value = tree.put key value := by
  cases tree <;> rfl

/-- The last entry of a key comes over what was there. -/
theorem map_get?_mergeEntries (entries : List (String × Tree)) (old : Tree) :
    ((mergeEntries entries old).get? key).map Tree.leaf? =
      ((entries.reverse.lookup key).map Tree.leaf?).or ((old.get? key).map Tree.leaf?) := by
  induction entries generalizing old with
  | nil => rfl
  | cons entry rest ih =>
      obtain ⟨name, value⟩ := entry
      have hput : ((old.put name (value.merge ((old.get? name).getD nothing))).get? key).map Tree.leaf? =
          (([(name, value)].lookup key).map Tree.leaf?).or ((old.get? key).map Tree.leaf?) := by
        rw [get?_put, List.lookup_cons]
        by_cases hname : key = name
        · rw [if_pos hname, beq_iff_eq.2 hname, Option.map_some, leaf?_merge]
          rfl
        · rw [if_neg hname, beq_eq_false_iff_ne.2 hname]
          rfl
      rw [mergeEntries, ih, hput, ← Option.or_assoc, List.reverse_cons, List.lookup_append]
      cases rest.reverse.lookup key <;> rfl

/-! ## What assignments say, and what is shown -/

/-- What is given to a setting is shown of it, unless what is shown is no leaf and so cannot be read. -/
def Shows (given : Option Tree) (shown : Option (Option Tree)) : Prop :=
  shown = some none ∨ shown = given.map some

theorem shows_map_leaf? (given : Option Tree) : Shows given (given.map Tree.leaf?) := by
  cases given with
  | none => exact Or.inr rfl
  | some raw =>
      cases raw with
      | leaf value origin => exact Or.inr rfl
      | array items origin | table entries origin => exact Or.inl rfl

theorem Shows.or {first second : Option Tree} {shown shown' : Option (Option Tree)}
    (hfirst : Shows first shown) (hsecond : Shows second shown') :
    Shows (first.or second) (shown.or shown') := by
  rcases hfirst with rfl | rfl
  · exact Or.inl rfl
  · cases first with
    | none => exact hsecond
    | some value => exact Or.inr rfl

/-- An assignment in another section says nothing. -/
theorem says?_of_root_ne {path : KeyPath} (h : setting.group.name ≠ path.root) :
    says? setting (path, value) = none := by
  rw [says?, if_neg fun hpath => h (congrArg KeyPath.root hpath).symm,
    if_neg fun hpath => h (congrArg KeyPath.root hpath).symm]

/-- Neither does one that is not at the place of the setting, nor at that of its section. -/
theorem says?_of_spares {path : KeyPath} (hspares : path.Spares setting.group) (hpath : path ≠ setting.path) :
    says? setting (path, value) = none := by
  rw [says?, if_neg hpath, if_neg]
  rintro rfl
  exact hspares rfl

/-- A table in place of the section says what it has under the key. -/
theorem says?_table (setting : Setting) (entries : List (String × Tree)) (origin : Option String) :
    says? setting (⟨setting.group.name, []⟩, .table entries origin) =
      entries.reverse.lookup setting.key := by
  rw [says?, if_neg nofun, if_pos rfl]
  rfl

/-- An assignment at the place of a setting shows its value there; one below it leaves no leaf there. -/
theorem shows_setAt (setting : Setting) (value old : Tree) (rest : List Step) :
    Shows (says? setting (⟨setting.group.name, .key setting.key :: rest⟩, value))
      (some (setAt value rest old).leaf?) := by
  cases rest with
  | nil =>
      have hplace : (⟨setting.group.name, [.key setting.key]⟩ : KeyPath) = setting.path := rfl
      rw [says?, if_pos hplace, setAt, leaf?_merge]
      exact shows_map_leaf? (some value)
  | cons step more =>
      cases step with
      | key other => exact Or.inl (congrArg some (isTable_put _ _ _).leaf?)
      | index number => exact Or.inl rfl

/-- An assignment gives to a setting what it says of it, and leaves a setting of which it says nothing. -/
theorem Shows.set {path : KeyPath} (hgiven : Shows given (tree.shown setting))
    (h : KeepsSection setting.group (path, value)) :
    Shows ((says? setting (path, value)).or given) ((tree.set path value).shown setting) := by
  obtain ⟨root, steps⟩ := path
  show Shows _ ((tree.put root _).shown setting)
  rw [shown_put]
  by_cases hroot : setting.group.name = root
  · subst hroot
    rw [if_pos rfl]
    rw [shown_eq] at hgiven
    cases steps with
    | nil =>
        have htable := h rfl
        cases value with
        | leaf _ _ | array _ _ => exact htable.elim
        | table entries origin =>
            rw [says?_table, setAt, merge, map_get?_mergeEntries, get?_asTable]
            exact (shows_map_leaf? _).or hgiven
    | cons step rest =>
        cases step with
        | index number => exact absurd rfl h
        | key name =>
            rw [setAt, get?_put]
            by_cases hkey : setting.key = name
            · subst hkey
              rw [if_pos rfl, Option.map_some]
              exact (shows_setAt setting value _ rest).or hgiven
            · rw [if_neg hkey, says?, if_neg fun hpath => hkey (by cases hpath; rfl), if_neg nofun]
              exact hgiven
  · rw [if_neg hroot, says?_of_root_ne hroot]
    exact hgiven

/-- Of several assignments, the last one counts that says anything of the setting. -/
theorem Shows.setAll (hgiven : Shows given (tree.shown setting))
    (h : ∀ assignment ∈ assignments, KeepsSection setting.group assignment) :
    Shows ((assignments.reverse.findSome? (says? setting)).or given)
      ((setAll assignments tree).shown setting) := by
  induction assignments generalizing tree given with
  | nil => exact hgiven
  | cons assignment rest ih =>
      obtain ⟨hassignment, hrest⟩ := List.forall_mem_cons.1 h
      have hlast : ((assignment :: rest).reverse.findSome? (says? setting)).or given =
          (rest.reverse.findSome? (says? setting)).or ((says? setting assignment).or given) := by
        rw [List.reverse_cons, List.findSome?_append, Option.or_assoc, List.findSome?_singleton]
      rw [hlast]
      exact ih (hgiven.set hassignment) hrest

/-- What is read of a setting is what is given to it. -/
theorem Shows.takes {before after : Settings} (h : Shows given (tree.shown setting))
    (htakes : Takes setting (tree.at? setting) before after) : Takes setting given before after := by
  rw [shown] at h
  cases hraw : tree.at? setting with
  | none =>
      rw [hraw] at h htakes
      rcases h with h | h
      · cases h
      · cases given with
        | none => exact htakes
        | some value => cases h
  | some raw =>
      rw [hraw] at h htakes
      obtain ⟨scalar, origin, rfl⟩ := convert_eq_ok htakes
      rcases h with h | h
      · cases h
      · cases given with
        | none => cases h
        | some value =>
            obtain rfl := Option.some.inj (Option.some.inj h)
            exact htakes

/-- What is read of a setting is what the last assignment says that says anything of it, or else what was
    given to it before. -/
theorem Shows.takes_setAll {after : Settings} (hgiven : Shows given (tree.shown setting))
    (htree : tree.Keyed) (hsection : tree.HasSection setting.group)
    (h : ∀ assignment ∈ assignments, KeepsSection setting.group assignment)
    (hread : ofTree (Tree.setAll assignments tree) = .ok after) :
    Takes setting ((assignments.reverse.findSome? (says? setting)).or given) {} after :=
  (hgiven.setAll h).takes (takes_ofTree (htree.setAll assignments) (hsection.setAll h) hread)

/-- If nothing was there, it is the default. -/
theorem takes_setAll (h : ∀ assignment ∈ assignments, KeepsSections assignment) {after : Settings}
    (hread : ofTree (setAll assignments empty) = .ok after) (setting : Setting) :
    Takes setting (assignments.reverse.findSome? (says? setting)) {} after := by
  have hnothing : Shows none (empty.shown setting) := Or.inr rfl
  have htakes := hnothing.takes_setAll keyed_empty (hasSection_empty _)
    (fun assignment hassignment => (h assignment hassignment).keepsSection setting.group) hread
  rwa [Option.or_none] at htakes

/-- A setting has what it was set to, whatever stood in place of it or of its section, if nothing was set
    afterwards at its place, nor in place of its section or an item of it. -/
theorem convert_of_ofTree_setAll {scalar : Scalar} {origin : Option String} {settings : Settings}
    {first last : List (KeyPath × Tree)} (htree : tree.Keyed)
    (hlast : ∀ assignment ∈ last, assignment.1.Spares setting.group ∧ assignment.1 ≠ setting.path)
    (hread : ofTree (setAll (first ++ (setting.path, .leaf scalar origin) :: last) tree) = .ok settings) :
    setting.convert (.leaf scalar origin) = .ok (settings.value setting) := by
  rw [setAll_append] at hread
  have hplace (before : Tree) : (before.set setting.path (.leaf scalar origin)).get? setting.group.name =
      some ((((before.get? setting.group.name).getD nothing).put setting.key (.leaf scalar origin))) :=
    (get?_set ..).trans (if_pos rfl)
  have hshown : Shows (some (.leaf scalar origin))
      (((setAll first tree).set setting.path (.leaf scalar origin)).shown setting) := by
    rw [shown, at?, hplace, Option.bind_some, get?_put, if_pos rfl]
    exact Or.inr rfl
  have hsection : ((setAll first tree).set setting.path (.leaf scalar origin)).HasSection setting.group := by
    intro found hfound
    rw [hplace] at hfound
    exact Option.some.inj hfound ▸ isTable_put _ _ _
  have hsilent : last.reverse.findSome? (says? setting) = none := by
    refine List.findSome?_eq_none_iff.2 fun assignment hmem => ?_
    obtain ⟨hspares, hpath⟩ := hlast assignment (List.mem_reverse.1 hmem)
    exact says?_of_spares hspares hpath
  have htakes := hshown.takes_setAll ((htree.setAll first).set _ _) hsection
    (fun assignment hmem => keepsSection_of_spares (hlast assignment hmem).1 _) hread
  rwa [hsilent] at htakes

end PullRequestBot.Settings.Tree
