import PullRequestBot.Proofs.Host.World
import PullRequestBot.Proofs.Settings.Layers

set_option autoImplicit false

/-! # What is loaded

In a world that does not change, a loader carries out assignments: those of its sources, those of the
environment, and its overrides (`load_eq_ok`). Whatever the world answers, chance included, loading only looks
at files and at the environment, and a setting has what the last override of it says, if no override stands
in place of its section (`always_load`). -/

namespace PullRequestBot.Settings

open Dialogue (Always Settles endIn)

namespace Loader

variable {world : Host.World} {settings : Settings}

/-! ## The assignments of a loader -/

/-- The assignments of a source. -/
def sourceAssignments (world : Host.World) (source : Source) : List (KeyPath × Tree) :=
  match endIn world source.read with
  | .ok entries => entries.map fun entry => (KeyPath.ofText entry.1, entry.2)
  | .error _ => []

/-- The assignment of an environment variable, if it counts. -/
def variableAssignment? (word : String) (entry : String × String) : Option (KeyPath × Tree) :=
  (Environment.key? word entry.1).map fun key => (KeyPath.ofText key, Environment.leaf entry.2)

/-- The assignments of the environment, if it counts. -/
def environmentAssignments (word : Option String) (entries : List (String × String)) :
    List (KeyPath × Tree) :=
  match word with
  | none => []
  | some word => entries.filterMap (variableAssignment? word)

/-- The assignment of an override. -/
def overrideAssignment (override : KeyPath × Scalar) : KeyPath × Tree :=
  (override.1, .leaf override.2 none)

/-- The assignments of the overrides, in the order that chance draws for them. -/
def overrideAssignments (draws : List Nat) (loader : Loader) : List (KeyPath × Tree) :=
  (HashTable.walk draws loader.overrides).map overrideAssignment

theorem mem_overrideAssignments {draws : List Nat} {loader : Loader} {assignment : KeyPath × Tree}
    (h : assignment ∈ overrideAssignments draws loader) :
    ∃ override ∈ loader.overrides, overrideAssignment override = assignment := by
  obtain ⟨override, hmem, hoverride⟩ := List.mem_map.1 h
  exact ⟨override, HashTable.mem_of_mem_walk hmem, hoverride⟩

/-- The assignments that a loader carries out one after the other. -/
def assignments (world : Host.World) (loader : Loader) : List (KeyPath × Tree) :=
  loader.sources.flatMap (sourceAssignments world) ++
    environmentAssignments loader.environmentWord (world .environment) ++
    overrideAssignments (world .draw) loader

theorem mergeTop_eq (entries : List (String × Tree)) (tree : Tree) : mergeTop entries tree =
    Tree.setAll (entries.map fun entry => (KeyPath.ofText entry.1, entry.2)) tree := by
  rw [Tree.setAll, List.foldl_map]
  rfl

theorem mergeSources_eq_ok {sources : List Source} {tree after : Tree}
    (h : endIn world (mergeSources sources tree) = .ok after) :
    after = Tree.setAll (sources.flatMap (sourceAssignments world)) tree := by
  induction sources generalizing tree with
  | nil => exact (Except.ok.inj h).symm
  | cons source rest ih =>
      rw [mergeSources, Dialogue.endIn_bind] at h
      rw [List.flatMap_cons, Tree.setAll_append, sourceAssignments]
      cases hread : endIn world source.read with
      | error failure =>
          rw [hread] at h
          cases h
      | ok entries =>
          rw [hread] at h
          rw [ih h, mergeTop_eq]

theorem keyed_of_mergeSources {sources : List Source} {tree : Tree}
    (h : endIn world (mergeSources sources Tree.empty) = .ok tree) : tree.Keyed := by
  rw [mergeSources_eq_ok h]
  exact Tree.keyed_empty.setAll _

/-- A last source is merged into what the others make. -/
theorem mergeSources_append (sources : List Source) (source : Source) (tree : Tree) :
    endIn world (mergeSources (sources ++ [source]) tree) =
      endIn world (mergeSources sources tree) >>= fun tree =>
        (endIn world source.read).map (mergeTop · tree) := by
  induction sources generalizing tree with
  | nil =>
      rw [List.nil_append, mergeSources, mergeSources, Dialogue.endIn_bind]
      cases endIn world source.read <;> rfl
  | cons first rest ih =>
      rw [List.cons_append, mergeSources, mergeSources, Dialogue.endIn_bind, Dialogue.endIn_bind]
      cases endIn world first.read with
      | error failure => rfl
      | ok entries => exact ih (mergeTop entries tree)

theorem merge_eq (word : String) (entries : List (String × String)) (tree : Tree) :
    Environment.merge word entries tree =
      Tree.setAll (entries.filterMap (variableAssignment? word)) tree := by
  rw [Environment.merge, Tree.setAll, List.foldl_filterMap]
  refine congrArg (entries.foldl · tree) (funext fun tree => funext fun entry => ?_)
  obtain ⟨name, value⟩ := entry
  dsimp only [variableAssignment?]
  cases Environment.key? word name <;> rfl

theorem endIn_mergeEnvironment (loader : Loader) (tree : Tree) :
    endIn world (loader.mergeEnvironment tree) =
      Tree.setAll (environmentAssignments loader.environmentWord (world .environment)) tree := by
  unfold mergeEnvironment environmentAssignments
  cases loader.environmentWord with
  | none => rfl
  | some word => exact merge_eq word _ tree

theorem mergeOverrides_eq (loader : Loader) (draws : List Nat) (tree : Tree) :
    loader.mergeOverrides draws tree = Tree.setAll (overrideAssignments draws loader) tree := by
  rw [Tree.setAll, overrideAssignments, List.foldl_map]
  rfl

/-- Whether a tree is read, and as what, does not depend on where it comes from. -/
theorem toOption_readTree (loader : Loader) (tree : Tree) : (loader.readTree tree).toOption =
    (ofTree tree).toOption.bind fun settings => settings.checked.toOption := by
  unfold readTree
  cases ofTree tree <;> rfl

theorem readTree_eq_ok {loader : Loader} {tree : Tree} (h : loader.readTree tree = .ok settings) :
    ofTree tree = .ok settings := by
  rw [← Result.toOption_eq_some, toOption_readTree] at h
  obtain ⟨read, hread, hchecked⟩ := Option.bind_eq_some_iff.1 h
  rw [checked_eq_ok (Result.toOption_eq_some.1 hchecked)]
  exact Result.toOption_eq_some.1 hread

/-- What a world gives the settings to be read from, if its sources can be read. -/
theorem endIn_load (world : Host.World) (loader : Loader) : endIn world loader.load =
    endIn world (mergeSources loader.sources Tree.empty) >>= fun tree =>
      loader.readTree (Tree.setAll (environmentAssignments loader.environmentWord (world .environment) ++
        overrideAssignments (world .draw) loader) tree) := by
  rw [load, Dialogue.endIn_bind]
  cases endIn world (mergeSources loader.sources Tree.empty) with
  | error failure => rfl
  | ok tree =>
      dsimp only
      rw [Dialogue.endIn_bind, endIn_mergeEnvironment]
      refine congrArg loader.readTree ((mergeOverrides_eq loader _ _).trans ?_)
      exact (Tree.setAll_append _ _ _).symm

/-- The settings that are loaded are read from what the assignments make of the empty tree. -/
theorem load_eq_ok {loader : Loader} (h : endIn world loader.load = .ok settings) :
    ofTree (Tree.setAll (loader.assignments world) Tree.empty) = .ok settings := by
  rw [endIn_load] at h
  obtain ⟨tree, hsources, hread⟩ := Result.bind_eq_ok.1 h
  rw [mergeSources_eq_ok hsources, ← Tree.setAll_append, ← List.append_assoc] at hread
  exact readTree_eq_ok hread

end Loader

/-! ## What the last override says -/

/-- What is asked to read a source: a look at files. -/
def IsFileLook : Host.Question → Prop
  | .fileKind _ | .readFile _ => True
  | _ => False

/-- What is asked to load settings: a look at files and at the environment, and a draw. -/
def IsLook : Host.Question → Prop
  | .fileKind _ | .readFile _ | .environment | .draw => True
  | _ => False

theorem IsFileLook.isLook {question : Host.Question} (h : IsFileLook question) : IsLook question := by
  cases question with
  | fileKind _ | readFile _ => exact trivial
  | _ => exact h.elim

theorem always_findFile (path : String) : (findFile path).Always IsFileLook fun _ => True := by
  refine ⟨trivial, fun kind => ?_⟩
  show Always _ _ (if _ then _ else _)
  split
  · exact trivial
  · cases withTomlEnding? path with
    | none => exact trivial
    | some candidate =>
        refine ⟨trivial, fun kind => ?_⟩
        show Always _ _ (if _ then _ else _)
        split <;> exact trivial

theorem always_readFile (path : String) : (readFile path).Always IsFileLook fun _ => True := by
  refine (always_findFile path).bind fun place _ => ?_
  cases place with
  | none => exact trivial
  | some place =>
      refine ⟨trivial, fun content => ?_⟩
      cases content with
      | ok bytes | error cause => exact trivial

theorem Source.always_read (source : Source) : source.read.Always IsFileLook fun _ => True := by
  cases source with
  | text toml => exact trivial
  | file path isRequired =>
      refine (always_readFile path).bind fun content _ => ?_
      cases content with
      | ok content | error failure => exact trivial

namespace Loader

theorem always_mergeSources (sources : List Source) {tree : Tree} (h : tree.Keyed) :
    (mergeSources sources tree).Always IsFileLook (Settles Tree.Keyed fun _ => True) := by
  induction sources generalizing tree with
  | nil => exact h
  | cons source rest ih =>
      refine source.always_read.bind fun entries _ => ?_
      cases entries with
      | error failure => exact trivial
      | ok entries =>
          have hmerged : (mergeTop entries tree).Keyed := by
            rw [mergeTop_eq]
            exact h.setAll _
          exact ih hmerged

theorem always_mergeEnvironment (loader : Loader) {tree : Tree} (h : tree.Keyed) :
    (loader.mergeEnvironment tree).Always IsLook Tree.Keyed := by
  unfold mergeEnvironment
  cases loader.environmentWord with
  | none => exact h
  | some word =>
      refine ⟨trivial, fun entries => ?_⟩
      show (Environment.merge word entries tree).Keyed
      rw [merge_eq]
      exact h.setAll _

/-- Whatever is found, and in whatever order chance walks the overrides, loading only looks, and settings that
    are loaded have what the last override of them says, if none stands in place of their section or of an item
    of it. -/
theorem always_load {loader : Loader} {setting : Setting} {scalar : Scalar}
    (h : loader.overrides.reverse.lookup setting.path = some scalar)
    (hspares : ∀ override ∈ loader.overrides, override.1.Spares setting.group) :
    loader.load.Always IsLook (Settles
      (fun settings => setting.convert (.leaf scalar none) = .ok (settings.value setting))
      fun _ => True) := by
  have hsources := (always_mergeSources loader.sources Tree.keyed_empty).imp
    (fun _ => IsFileLook.isLook) fun _ => id
  refine hsources.bind fun merged hmerged => ?_
  cases merged with
  | error failure => exact trivial
  | ok tree =>
      refine (always_mergeEnvironment loader hmerged).bind fun tree htree => ⟨trivial, fun draws => ?_⟩
      show Settles _ _ (loader.readTree (loader.mergeOverrides draws tree))
      cases hread : loader.readTree (loader.mergeOverrides draws tree) with
      | error failure => exact trivial
      | ok settings =>
          -- on the walk, nothing else stands under the path of the setting
          obtain ⟨first, last, hwalk⟩ := List.append_of_mem ((HashTable.mem_walk_iff draws).2 h)
          have hnodup := HashTable.nodup_walk draws loader.overrides
          rw [hwalk, List.map_append, List.map_cons] at hnodup
          have hnew := (List.nodup_cons.1 (List.nodup_append.1 hnodup).2.1).1
          rw [mergeOverrides_eq, overrideAssignments, hwalk, List.map_append, List.map_cons] at hread
          refine Tree.convert_of_ofTree_setAll htree (fun assignment hassignment => ?_) (readTree_eq_ok hread)
          obtain ⟨override, hoverride, rfl⟩ := List.mem_map.1 hassignment
          have hmem : override ∈ HashTable.walk draws loader.overrides := by
            rw [hwalk]
            exact List.mem_append_right _ (List.mem_cons_of_mem _ hoverride)
          exact ⟨hspares override (HashTable.mem_of_mem_walk hmem),
            fun hsame => hnew (List.mem_map.2 ⟨override, hoverride, hsame⟩)⟩

/-- Of overrides of different settings, the settings that are loaded have what each of them says, whatever was
    overridden before, if nothing was in place of the section or of an item of it. -/
theorem always_load_of_mem {loader after : Loader} {earlier : List String} {entries : List Entry}
    (hdistinct : (entries.map Entry.setting).Nodup)
    (h : loader.overrideAll (earlier ++ entries.map Entry.text) = .ok after) {entry : Entry}
    (hentry : entry ∈ entries)
    (hloader : ∀ override ∈ loader.overrides, override.1.Spares entry.setting.group)
    (hearlier : ∀ text ∈ earlier, SparesSection entry.setting.group text) :
    after.load.Always IsLook (Settles
      (fun settings => entry.setting.convert (.leaf (.text (Text.strip entry.value)) none) =
        .ok (settings.value entry.setting)) fun _ => True) := by
  rw [overrideAll, List.foldlM_append] at h
  obtain ⟨middle, hmiddle, hentries⟩ := Result.bind_eq_ok.1 h
  obtain rfl := Except.ok.inj ((overrideAll_text middle _).symm.trans hentries)
  have hpaths : (entries.map Entry.override).map Prod.fst = (entries.map Entry.setting).map Setting.path := by
    rw [List.map_map, List.map_map]
    rfl
  have hnodup : ((entries.map Entry.override).reverse.map Prod.fst).Nodup := by
    rw [List.map_reverse, (List.reverse_perm _).nodup_iff, hpaths]
    exact List.Pairwise.map _ (fun _ _ hne hsame => hne (Setting.path_inj.1 hsame)) hdistinct
  refine always_load ?_ fun override hoverride => ?_
  · have hfound := (HashTable.lookup_eq_some_iff hnodup).2 (List.mem_reverse.2 (List.mem_map_of_mem hentry))
    rw [List.reverse_append, List.lookup_append, hfound]
    rfl
  · rcases List.mem_append.1 hoverride with hbefore | hflag
    · exact spares_of_overrideAll hloader hearlier hmiddle override hbefore
    · obtain ⟨other, -, rfl⟩ := List.mem_map.1 hflag
      exact trivial

end Loader

end PullRequestBot.Settings
