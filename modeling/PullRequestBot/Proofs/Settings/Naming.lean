import PullRequestBot.Proofs.Result
import PullRequestBot.Settings.Loader

set_option autoImplicit false

/-! # How settings are named

A setting is named by its section and its key with a dot between them, and by nothing else
(`ofText_eq_path_iff`). In an override `KEY=VALUE` a slash may stand for the dot, with blanks around the key;
`Entry` is such an override, and `override_text` says what it does. -/

namespace PullRequestBot

/-! ## Names and places -/

theorem Settings.Section.mem_all (group : Settings.Section) : group ∈ all := by
  cases group <;> decide

/-- A section is known by its name. -/
theorem Settings.Section.eq_of_name {first second : Settings.Section} (h : first.name = second.name) :
    first = second := by
  have hall : ∀ first ∈ all, ∀ second ∈ all, first.name = second.name → first = second := by decide
  exact hall first first.mem_all second second.mem_all h

/-- The names of all sections. -/
def Settings.Section.names : List String :=
  all.map name

theorem Settings.Section.name_mem_names (group : Settings.Section) : group.name ∈ names :=
  List.mem_map_of_mem group.mem_all

namespace Setting

/-- A setting is known by its section and its key. -/
theorem eq_of_key {first second : Setting} (hgroup : first.group = second.group)
    (hkey : first.key = second.key) : first = second := by
  have hall : ∀ first ∈ all, ∀ second ∈ all,
      first.group = second.group → first.key = second.key → first = second := by decide +kernel
  exact hall first (mem_all first) second (mem_all second) hgroup hkey

/-- The name of a setting with a slash in place of the dot. -/
def slashedName (setting : Setting) : String :=
  s!"{setting.group.name}/{setting.key}"

/-- The place of a setting. -/
def path (setting : Setting) : Settings.KeyPath :=
  ⟨setting.group.name, [.key setting.key]⟩

theorem path_inj {first second : Setting} : first.path = second.path ↔ first = second := by
  refine ⟨fun h => ?_, congrArg path⟩
  obtain ⟨hgroup, hsteps⟩ := Settings.KeyPath.mk.inj h
  obtain ⟨hkey, -⟩ := List.cons.inj hsteps
  exact eq_of_key (Settings.Section.eq_of_name hgroup) (Settings.Tree.Step.key.inj hkey)

end Setting

namespace Settings

namespace KeyPath

theorem read?_name (setting : Setting) : read? setting.name = some setting.path := by
  have hall : ∀ setting ∈ Setting.all, read? setting.name = some setting.path := by decide +kernel
  exact hall setting setting.mem_all

theorem eq_append_of_readName {cs rest : List Char} {name : String}
    (h : readName cs = some (name, rest)) : cs = name.toList ++ rest := by
  unfold readName at h
  dsimp only at h
  split at h
  · cases h
  · obtain ⟨rfl, rfl⟩ := Prod.mk.inj (Option.some.inj h)
    rw [String.toList_ofList]
    exact (List.prefix_iff_eq_append.1 (List.takeWhile_prefix isNameChar)).symm

theorem eq_nil_of_readSteps {fuel : Nat} {cs : List Char} (h : readSteps fuel cs = some []) :
    cs = [] := by
  unfold readSteps at h
  split at h
  · rfl
  · cases h
  · obtain ⟨_, _, h⟩ := Option.bind_eq_some_iff.1 h
    obtain ⟨_, _, h⟩ := Option.bind_eq_some_iff.1 h
    cases h
  · obtain ⟨_, _, h⟩ := Option.bind_eq_some_iff.1 h
    dsimp only at h
    split at h
    · obtain ⟨_, _, h⟩ := Option.bind_eq_some_iff.1 h
      cases h
    · cases h
  · cases h

theorem eq_cons_of_readSteps {fuel : Nat} {cs : List Char} {name : String}
    (h : readSteps fuel cs = some [.key name]) : cs = '.' :: name.toList := by
  unfold readSteps at h
  split at h
  · cases h
  · cases h
  · obtain ⟨⟨first, rest⟩, hname, h⟩ := Option.bind_eq_some_iff.1 h
    obtain ⟨steps, hsteps, h⟩ := Option.bind_eq_some_iff.1 h
    obtain ⟨hfirst, rfl⟩ := List.cons.inj (Option.some.inj h)
    obtain rfl := Tree.Step.key.inj hfirst
    rw [eq_append_of_readName hname, eq_nil_of_readSteps hsteps, List.append_nil]
  · obtain ⟨_, _, h⟩ := Option.bind_eq_some_iff.1 h
    dsimp only at h
    split at h
    · obtain ⟨_, _, h⟩ := Option.bind_eq_some_iff.1 h
      cases h
    · cases h
  · cases h

/-- Only its name is read as the place of a setting. -/
theorem eq_name_of_read? {text : String} {setting : Setting} (h : read? text = some setting.path) :
    text = setting.name := by
  obtain ⟨⟨root, rest⟩, hroot, h⟩ := Option.bind_eq_some_iff.1 h
  obtain ⟨steps, hsteps, h⟩ := Option.bind_eq_some_iff.1 h
  obtain ⟨rfl, rfl⟩ := KeyPath.mk.inj (Option.some.inj h)
  have htext : text.toList = setting.name.toList := by
    rw [eq_append_of_readName hroot, eq_cons_of_readSteps hsteps]
    simp [Setting.name, toString]
  exact String.toList_inj.1 htext

theorem ofText_eq_path_iff {text : String} {setting : Setting} :
    ofText text = setting.path ↔ text = setting.name := by
  constructor
  · intro h
    unfold ofText at h
    cases hread : read? text with
    | none =>
        rw [hread] at h
        cases h
    | some path =>
        rw [hread] at h
        obtain rfl : path = setting.path := h
        exact eq_name_of_read? hread
  · rintro rfl
    rw [ofText, read?_name]
    rfl

/-! ## Places apart -/

variable {setting other : Setting} {path : KeyPath}

/-- A place is apart from that of a setting: it is in another section, or at or below another key of the
    same section. -/
def IsApart (setting : Setting) : KeyPath → Prop
  | ⟨root, .key name :: _⟩ => root = setting.group.name → name ≠ setting.key
  | ⟨root, _⟩ => root ≠ setting.group.name

instance (setting : Setting) : DecidablePred (IsApart setting)
  | ⟨root, .key name :: _⟩ => inferInstanceAs (Decidable (root = setting.group.name → name ≠ setting.key))
  | ⟨root, []⟩ | ⟨root, .index _ :: _⟩ => inferInstanceAs (Decidable (root ≠ setting.group.name))

theorem IsApart.cases (h : path.IsApart setting) :
    path.root ≠ setting.group.name ∨
      ∃ name rest, path = ⟨setting.group.name, .key name :: rest⟩ ∧ name ≠ setting.key := by
  obtain ⟨root, steps⟩ := path
  by_cases hroot : root = setting.group.name
  · subst hroot
    match steps, h with
    | .key name :: rest, h => exact Or.inr ⟨name, rest, rfl, h rfl⟩
    | [], h | .index _ :: _, h => exact absurd rfl h
  · exact Or.inl hroot

/-- A place is not a section as a whole, nor an item of it: in the section, it is at or below a key. -/
def Spares (group : Section) : KeyPath → Prop
  | ⟨_, .key _ :: _⟩ => True
  | ⟨root, _⟩ => root ≠ group.name

instance (group : Section) : DecidablePred (Spares group)
  | ⟨_, .key _ :: _⟩ => inferInstanceAs (Decidable True)
  | ⟨root, []⟩ | ⟨root, .index _ :: _⟩ => inferInstanceAs (Decidable (root ≠ group.name))

/-- A place apart is neither that of the setting nor in place of its section. -/
theorem IsApart.besides (h : path.IsApart setting) : path.Spares setting.group ∧ path ≠ setting.path := by
  constructor
  · obtain ⟨root, steps⟩ := path
    match steps, h with
    | .key _ :: _, _ => exact trivial
    | [], h | .index _ :: _, h => exact h
  · rintro rfl
    exact h rfl rfl

end KeyPath

/-! ## Overrides -/

namespace Loader

/-- An override `KEY=VALUE` of a setting. Its key is the name of the setting, but for slashes in place of dots
    and for blanks around it. -/
structure Entry where
  setting : Setting
  key : String
  value : String
  names : dotted key = setting.name
deriving DecidableEq, Repr

namespace Entry

/-- The override as it is written. -/
def text (entry : Entry) : String :=
  entry.key ++ "=" ++ entry.value

/-- What it overrides. -/
def override (entry : Entry) : KeyPath × Scalar :=
  (entry.setting.path, .text (Text.strip entry.value))

theorem not_mem_key (entry : Entry) : '=' ∉ entry.key.toList := by
  intro hmem
  have hdotted : '=' ∈ (dotted entry.key).toList := by
    rw [dotted, String.toList_ofList]
    exact List.mem_map.2 ⟨'=', Text.mem_trim hmem (by decide), by decide⟩
  rw [entry.names] at hdotted
  have hall : ∀ setting ∈ Setting.all, '=' ∉ setting.name.toList := by decide +kernel
  exact hall _ entry.setting.mem_all hdotted

theorem cutString_text (entry : Entry) :
    Text.cutString '=' entry.text = some (entry.key, entry.value) := by
  have htext : entry.text.toList = entry.key.toList ++ '=' :: entry.value.toList := by simp [text]
  rw [Text.cutString, htext, Text.cut_append entry.not_mem_key]
  simp

end Entry

/-- The name of a setting is a key that can be overridden. -/
theorem set_name (loader : Loader) (setting : Setting) (value : Scalar) :
    loader.set setting.name value =
      .ok { loader with overrides := loader.overrides ++ [(setting.path, value)] } := by
  rw [set, KeyPath.read?_name]

/-- With a slash in place of the dot it is none. -/
theorem set_slashedName (loader : Loader) (setting : Setting) (value : Scalar) :
    loader.set setting.slashedName value = .error (.invalidKey setting.slashedName) := by
  have hall : ∀ setting ∈ Setting.all, KeyPath.read? setting.slashedName = none := by decide +kernel
  rw [set, hall setting setting.mem_all]

/-- An override that names a setting sets it to the text without the blanks around it. -/
theorem override_text (loader : Loader) (entry : Entry) :
    loader.override entry.text = .ok { loader with overrides := loader.overrides ++ [entry.override] } := by
  have hname : entry.setting.name.isEmpty = false := by
    have hall : ∀ setting ∈ Setting.all, setting.name.isEmpty = false := by decide +kernel
    exact hall _ entry.setting.mem_all
  rw [override, Entry.cutString_text]
  dsimp only
  rw [entry.names, hname]
  exact set_name loader _ _

/-- So do several of them, in order. -/
theorem overrideAll_text (loader : Loader) (entries : List Entry) :
    loader.overrideAll (entries.map Entry.text) = .ok { loader with
      overrides := loader.overrides ++ entries.map Entry.override } := by
  induction entries generalizing loader with
  | nil =>
      rw [List.map_nil, List.map_nil, List.append_nil]
      rfl
  | cons entry rest ih =>
      rw [List.map_cons, overrideAll, List.foldlM_cons, override_text]
      refine (ih _).trans ?_
      rw [List.append_assoc]
      rfl

/-- The place that an override `KEY=VALUE` names. -/
def place? (text : String) : Option KeyPath :=
  (Text.cutString '=' text).bind fun entry => KeyPath.read? (dotted entry.1)

/-- An override `KEY=VALUE` does not stand in place of a section, nor of an item of it. -/
def SparesSection (group : Section) (text : String) : Prop :=
  ∀ path ∈ place? text, path.Spares group

instance (group : Section) : DecidablePred (SparesSection group) := fun text =>
  inferInstanceAs (Decidable (∀ path ∈ place? text, path.Spares group))

/-- An override sets the place that it names, and nothing else. -/
theorem override_eq_ok {loader after : Loader} {text : String} (h : loader.override text = .ok after) :
    ∃ path value, place? text = some path ∧
      after = { loader with overrides := loader.overrides ++ [(path, value)] } := by
  unfold override at h
  cases hcut : Text.cutString '=' text with
  | none =>
      rw [hcut] at h
      cases h
  | some entry =>
      rw [hcut] at h
      dsimp only at h
      split at h
      · cases h
      · unfold set at h
        cases hread : KeyPath.read? (dotted entry.1) with
        | none =>
            rw [hread] at h
            cases h
        | some path =>
            rw [hread] at h
            refine ⟨path, _, ?_, (Except.ok.inj h).symm⟩
            rw [place?, hcut, Option.bind_some, hread]

/-- Overrides that do not stand in place of a section leave it so. -/
theorem spares_of_overrideAll {loader after : Loader} {group : Section} {texts : List String}
    (hloader : ∀ override ∈ loader.overrides, override.1.Spares group)
    (htexts : ∀ text ∈ texts, SparesSection group text) (h : loader.overrideAll texts = .ok after) :
    ∀ override ∈ after.overrides, override.1.Spares group := by
  induction texts generalizing loader with
  | nil =>
      obtain rfl := Except.ok.inj h
      exact hloader
  | cons text rest ih =>
      obtain ⟨htext, hrest⟩ := List.forall_mem_cons.1 htexts
      rw [overrideAll, List.foldlM_cons] at h
      obtain ⟨middle, hmiddle, h⟩ := Result.bind_eq_ok.1 h
      obtain ⟨path, value, hpath, rfl⟩ := override_eq_ok hmiddle
      refine ih (fun override hoverride => ?_) hrest h
      rcases List.mem_append.1 hoverride with hbefore | hnew
      · exact hloader override hbefore
      · obtain rfl := List.mem_singleton.1 hnew
        exact htext path hpath

end Loader

end Settings

end PullRequestBot
