import PullRequestBot.Proofs.Host.World
import PullRequestBot.Proofs.Settings.Likeness
import PullRequestBot.Proofs.Settings.Loading

set_option autoImplicit false

/-! # Texts from the environment

A setting that takes a text takes it from an environment variable or from a source. What a variable says is
taken as a boolean or a number, if it spells one, and is then written out again for the setting
(`Environment.written`). So the variable stands for a source that says what is written out, and for one with
the same text exactly if nothing is lost on the way (`variable_like_source`); zeros at an end, for one, are
lost (`variable_loses_zero`). -/

namespace PullRequestBot

open Dialogue (endIn)

/-! ## Settings that take texts -/

namespace Setting

/-- The settings that take texts. -/
def texts : List Setting := [logFile, defaultBaseBranch, lockFile, apiUrl, token, tokenVariable]

/-- The name of a setting in capitals, with two underscores between section and key. -/
def capitals (setting : Setting) : String :=
  (setting.group.name ++ "__" ++ setting.key).toUpper

end Setting

namespace Settings

variable {setting : Setting} {word : String}

/-- A scalar as a text. -/
def Scalar.written : Scalar → String
  | .nothing => ""
  | .boolean value => toString value
  | .integer value => toString value
  | .float value => value.positional
  | .text value => value

/-- A setting that takes a text takes every other value as the text that is written for it. -/
theorem convert_written (htext : setting ∈ Setting.texts) {scalar : Scalar} (hscalar : scalar ≠ .nothing)
    (origin origin' : Option String) :
    setting.convert (.leaf scalar origin) = setting.convert (.leaf (.text scalar.written) origin') := by
  cases scalar with
  | nothing => exact absurd rfl hscalar
  | boolean _ | integer _ | float _ | text _ =>
      simp only [Setting.texts, List.mem_cons, List.not_mem_nil, or_false] at htext
      rcases htext with rfl | rfl | rfl | rfl | rfl | rfl <;> rfl

/-- A setting that takes a text is the text. -/
theorem convert_text_inj (htext : setting ∈ Setting.texts) {first second : String}
    {origin origin' : Option String} (h : setting.convert (.leaf (.text first) origin) =
      setting.convert (.leaf (.text second) origin')) : first = second := by
  simp only [Setting.texts, List.mem_cons, List.not_mem_nil, or_false] at htext
  rcases htext with rfl | rfl | rfl | rfl | rfl | rfl <;> cases h <;> rfl

/-! ## Variables -/

namespace Environment

/-- The text that a setting takes of what a variable says. -/
def written (value : String) : String :=
  (scalar value).written

theorem scalar_ne_nothing (value : String) : scalar value ≠ .nothing := by
  unfold scalar
  dsimp only
  repeat' split
  all_goals nofun

/-- The name of the variable that stands for a setting behind a word. -/
def nameOf (word : String) (setting : Setting) : String :=
  word ++ "_" ++ setting.capitals

theorem capitals_plain (setting : Setting) : ∀ c ∈ setting.capitals.toList, c ≠ 'Σ' ∧ c ≠ 'İ' := by
  have hall : ∀ setting ∈ Setting.all,
      (setting.capitals.toList.all fun c => c != 'Σ' && c != 'İ') = true := by decide +kernel
  simpa using hall setting setting.mem_all

/-- Section and key in capitals, in lower case and with a dot between them, are the name of the setting. -/
theorem replaceSeparators_capitals (setting : Setting) :
    replaceSeparators (setting.capitals.toList.map Text.lowercaseChar) = setting.name.toList := by
  have hall : ∀ setting ∈ Setting.all,
      replaceSeparators (setting.capitals.toList.map Text.lowercaseChar) = setting.name.toList := by
    decide +kernel
  exact hall setting setting.mem_all

/-- Whatever the word is, the name stands for the setting: an underscore keeps the lower case of the word
    from what comes after it. -/
theorem key?_nameOf (word : String) (setting : Setting) :
    key? word (nameOf word setting) = some setting.name := by
  have hstart : (Text.lowercaseString (word ++ "_")).toList = Text.lowercase (word.toList ++ ['_']) := by
    simp [Text.lowercaseString]
  have hwhole : (Text.lowercaseString (nameOf word setting)).toList =
      Text.lowercase (word.toList ++ ['_']) ++ setting.capitals.toList.map Text.lowercaseChar := by
    have hlist : (nameOf word setting).toList = word.toList ++ '_' :: setting.capitals.toList := by
      simp [nameOf]
    rw [Text.lowercaseString, String.toList_ofList, hlist, Text.lowercase,
      Text.lowercaseFrom_append (by decide +kernel) (by decide), Text.lowercaseFrom_eq_map (capitals_plain setting), Text.lowercase]
  unfold key?
  dsimp only
  rw [hstart, hwhole, if_pos (List.isPrefixOf_iff_prefix.2 (List.prefix_append _ _)), List.drop_left,
    replaceSeparators_capitals, String.ofList_toList]

end Environment

/-! ## A variable and a source -/

/-- The world with other environment variables. -/
def inEnvironment (world : Host.World) (entries : List (String × String)) : Host.World
  | .environment => entries
  | question => world question

/-- What is asked to read sources has the same answers whatever the variables are. -/
theorem endIn_inEnvironment {α : Type} {job : Job α} {ended : α → Prop} (h : job.Always IsFileLook ended)
    (world : Host.World) (entries : List (String × String)) :
    endIn (inEnvironment world entries) job = endIn world job := by
  refine h.endIn_congr fun question hlook => ?_
  cases question with
  | fileKind _ | readFile _ => rfl
  | _ => exact hlook.elim

namespace Loader

variable {world : Host.World} {loader loader' : Loader} {source : Source} {tree : Tree} {text value : String}
  {origin tableOrigin : Option String} {front back : List (String × String)}

/-- The section, the key and the text that a source holds, if that is all. -/
def onlyText? : Except SettingsFailure (List (String × Tree)) → Option (String × String × String)
  | .ok [(root, .table [(key, .leaf (.text text) _)] _)] => some (root, key, text)
  | _ => none

/-- A source sets a setting to a text, and nothing else. -/
def SaysText (world : Host.World) (source : Source) (setting : Setting) (text : String) : Prop :=
  onlyText? (endIn world source.read) = some (setting.group.name, setting.key, text)

instance : Decidable (SaysText world source setting text) :=
  inferInstanceAs (Decidable (_ = _))

theorem SaysText.read_eq (h : SaysText world source setting text) :
    ∃ origin tableOrigin : Option String, endIn world source.read =
      .ok [(setting.group.name, .table [(setting.key, .leaf (.text text) origin)] tableOrigin)] := by
  unfold SaysText onlyText? at h
  split at h
  · next root key found origin tableOrigin hread =>
      simp only [Option.some.injEq, Prod.mk.injEq] at h
      obtain ⟨rfl, rfl, rfl⟩ := h
      exact ⟨origin, tableOrigin, hread⟩
  · cases h

/-- Variables whose places are apart from that of a setting. -/
def AllApart (word : String) (setting : Setting) (entries : List (String × String)) : Prop :=
  ∀ assignment ∈ environmentAssignments (some word) entries, assignment.1.IsApart setting

instance (entries : List (String × String)) : Decidable (AllApart word setting entries) :=
  inferInstanceAs (Decidable (∀ assignment ∈ _, _))

theorem ofText_sectionName (group : Section) : KeyPath.ofText group.name = ⟨group.name, []⟩ := by
  have hall : ∀ group ∈ Section.all, KeyPath.ofText group.name = ⟨group.name, []⟩ := by decide +kernel
  exact hall group group.mem_all

/-- What such a source does to a tree is to set the setting. -/
theorem mergeTop_text (tree : Tree) :
    mergeTop [(setting.group.name, .table [(setting.key, .leaf (.text text) origin)] tableOrigin)] tree =
      tree.set setting.path (.leaf (.text text) origin) := by
  rw [mergeTop_eq, List.map_singleton, ofText_sectionName]
  exact congrArg (tree.put setting.group.name) (Tree.put_asTable _ setting.key (.leaf (.text text) origin))

/-- A loader has one more source than another one, the last one. -/
structure AddsSource (loader loader' : Loader) (source : Source) : Prop where
  sources : loader'.sources = loader.sources ++ [source]
  word : loader'.environmentWord = loader.environmentWord
  overrides : loader'.overrides = loader.overrides

theorem addsSource_addText (loader : Loader) (toml : String) :
    AddsSource loader (loader.addText toml) (.text toml) :=
  ⟨rfl, rfl, rfl⟩

/-- What is carried out after the variables in front of that of a setting. -/
def later (loader : Loader) (word : String) (back : List (String × String)) (draws : List Nat) :
    List (KeyPath × Tree) :=
  environmentAssignments (some word) back ++ overrideAssignments draws loader

/-- The setting is set where its variable stands among the others. -/
theorem endIn_load_variable (hword : loader.environmentWord = some word) (world : Host.World)
    (setting : Setting) (value : String) (front back : List (String × String)) :
    endIn (inEnvironment world (front ++ (Environment.nameOf word setting, value) :: back)) loader.load =
      endIn world (mergeSources loader.sources Tree.empty) >>= fun tree =>
        loader.readTree (Tree.setAll (environmentAssignments (some word) front ++
          (setting.path, Environment.leaf value) :: loader.later word back (world .draw)) tree) := by
  have hvariable : variableAssignment? word (Environment.nameOf word setting, value) =
      some (setting.path, Environment.leaf value) := by
    rw [variableAssignment?, Environment.key?_nameOf, Option.map_some, KeyPath.ofText_eq_path_iff.2 rfl]
  rw [endIn_load, endIn_inEnvironment (always_mergeSources loader.sources Tree.keyed_empty), hword]
  simp [inEnvironment, environmentAssignments, later, List.filterMap_cons_some hvariable]

/-- The setting is set in front of all variables, if a last source says it. -/
theorem endIn_load_source (hword : loader.environmentWord = some word)
    (hadds : AddsSource loader loader' source) (hsource : SaysText world source setting text)
    (front back : List (String × String)) : ∃ origin,
    endIn (inEnvironment world (front ++ back)) loader'.load =
      endIn world (mergeSources loader.sources Tree.empty) >>= fun tree =>
        loader'.readTree (Tree.setAll (environmentAssignments (some word) front ++
          loader.later word back (world .draw)) (tree.set setting.path (.leaf (.text text) origin))) := by
  obtain ⟨origin, tableOrigin, hread⟩ := hsource.read_eq
  have hoverrides (draws : List Nat) : overrideAssignments draws loader' = overrideAssignments draws loader := by
    rw [overrideAssignments, hadds.overrides, overrideAssignments]
  refine ⟨origin, ?_⟩
  rw [endIn_load, endIn_inEnvironment (always_mergeSources _ Tree.keyed_empty), hadds.sources,
    mergeSources_append, hread, hadds.word, hoverrides, hword]
  cases endIn world (mergeSources loader.sources Tree.empty) with
  | error failure => rfl
  | ok tree =>
      simp [bind, Except.bind, Except.map, mergeTop_text, inEnvironment, environmentAssignments, later]

/-- **A variable for a text.** Whatever the sources, the other variables and the overrides are, as long as no
    variable in front stands at the place of the setting, above or below it: if the variable of a setting that
    takes a text says a value, then the same settings are loaded, or none, as with a last source instead that
    says the text that is written for the value. Where neither a later variable nor an override touches the
    setting, a source with any other text loads other settings. So a variable stands for a source with the
    same text exactly if the text is what is written for it. -/
theorem variable_like_source (htext : setting ∈ Setting.texts) (hword : loader.environmentWord = some word)
    (hadds : AddsSource loader loader' source) (hsource : SaysText world source setting text)
    (hfront : AllApart word setting front) (value : String) (back : List (String × String)) :
    let byVariable := endIn (inEnvironment world
      (front ++ (Environment.nameOf word setting, value) :: back)) loader.load
    let bySource := endIn (inEnvironment world (front ++ back)) loader'.load
    (text = Environment.written value → byVariable.toOption = bySource.toOption) ∧
      (AllApart word setting back → (∀ override ∈ loader.overrides, override.1.IsApart setting) →
        ∀ settings settings', byVariable = .ok settings → bySource = .ok settings' →
          (settings = settings' ↔ text = Environment.written value)) := by
  intro byVariable bySource
  obtain ⟨origin, hbySource⟩ := endIn_load_source hword hadds hsource front back
  have hbyVariable := endIn_load_variable hword world setting value front back
  have hconvert := convert_written htext (Environment.scalar_ne_nothing value) (some "the environment") origin
  have hsame : text = Environment.written value → byVariable.toOption = bySource.toOption := by
    rintro rfl
    rw [show byVariable = _ from hbyVariable, show bySource = _ from hbySource]
    cases hsources : endIn world (mergeSources loader.sources Tree.empty) with
    | error failure => rfl
    | ok tree =>
        have htree := keyed_of_mergeSources hsources
        have halike := Tree.alike_setAll_of_apart hfront (congrArg Except.toOption hconvert)
          (loader.later word back (world .draw)) tree
        have hread := halike.toOption_ofTree (htree.setAll _) ((htree.set _ _).setAll _)
        show (loader.readTree _).toOption = (loader'.readTree _).toOption
        rw [toOption_readTree, toOption_readTree]
        exact congrArg (Option.bind · _) hread
  refine ⟨hsame, fun hback hoverrides settings settings' hvariable hsource' => ?_⟩
  -- nothing touches the setting afterwards, so either has what it was set to
  obtain ⟨tree, hsources, hread⟩ := Result.bind_eq_ok.1 (hbyVariable.symm.trans hvariable)
  obtain ⟨tree', hsources', hread'⟩ := Result.bind_eq_ok.1 (hbySource.symm.trans hsource')
  obtain rfl := Except.ok.inj (hsources.symm.trans hsources')
  have htree := keyed_of_mergeSources hsources
  have hlater : ∀ assignment ∈ loader.later word back (world .draw), assignment.1.IsApart setting := by
    refine List.forall_mem_append.2 ⟨hback, fun assignment hassignment => ?_⟩
    obtain ⟨override, hoverride, rfl⟩ := mem_overrideAssignments hassignment
    exact hoverrides override hoverride
  have hvalue : setting.convert (Environment.leaf value) = .ok (settings.value setting) :=
    Tree.convert_of_ofTree_setAll htree (fun assignment hmem => (hlater assignment hmem).besides)
      (readTree_eq_ok hread)
  have hsetFirst : ofTree (Tree.setAll ([] ++ (setting.path, .leaf (.text text) origin) ::
      (environmentAssignments (some word) front ++ loader.later word back (world .draw))) tree) = .ok settings' :=
    readTree_eq_ok hread'
  have hvalue' : setting.convert (.leaf (.text text) origin) = .ok (settings'.value setting) :=
    Tree.convert_of_ofTree_setAll htree (fun assignment hmem =>
      (List.forall_mem_append.2 ⟨hfront, hlater⟩ assignment hmem).besides) hsetFirst
  constructor
  · rintro rfl
    exact convert_text_inj htext (hvalue'.trans (hvalue.symm.trans hconvert))
  · intro hwritten
    have hboth := hsame hwritten
    rw [hvariable, hsource'] at hboth
    exact Option.some.inj hboth

/-- A file and an override that say nothing of the lock file. -/
def plainLoader : Loader where
  sources := [.file "bot.toml" true]
  environmentWord := some "FEEDSTOCK_BOT"
  overrides := [(Setting.path .dryRun, .text "true")]

def plainWorld : Host.World :=
  worldOf [("bot.toml", "[github]\nfork_settle_secs = 1")] []

/-- A path is written as it is. -/
theorem lockFile_like_source :
    let toml := "[backend]\nlock_file = '/tmp/l'"
    let front := [("HOME", "/root"), ("FEEDSTOCK_BOT_BACKEND__DEFAULT_BASE_BRANCH", "dev")]
    let back := [("FEEDSTOCK_BOT_GITHUB__TOKEN_ENV", "T")]
    let byVariable := endIn (inEnvironment plainWorld
      (front ++ (Environment.nameOf "FEEDSTOCK_BOT" .lockFile, "/tmp/l") :: back)) plainLoader.load
    let bySource := endIn (inEnvironment plainWorld (front ++ back)) (plainLoader.addText toml).load
    let settings : Settings := {
      dryRun := true, defaultBaseBranch := "dev", lockFile := some "/tmp/l", tokenVariable := "T"
      forkSettle := 1 }
    Setting.lockFile ∈ Setting.texts ∧ plainLoader.environmentWord = some "FEEDSTOCK_BOT" ∧
      AddsSource plainLoader (plainLoader.addText toml) (.text toml) ∧
      SaysText plainWorld (.text toml) .lockFile "/tmp/l" ∧ AllApart "FEEDSTOCK_BOT" .lockFile front ∧
      byVariable = .ok settings ∧ bySource = .ok settings := by
  intro toml front back byVariable bySource settings
  have hsource : SaysText plainWorld (.text toml) .lockFile "/tmp/l" := by decide +kernel
  have hfront : AllApart "FEEDSTOCK_BOT" .lockFile front := by decide +kernel
  have hadds := addsSource_addText plainLoader toml
  have hvariable : byVariable.toOption = some settings := by decide +kernel
  have hboth : byVariable.toOption = bySource.toOption :=
    (variable_like_source (by decide) rfl hadds hsource hfront "/tmp/l" back).1 (by decide +kernel)
  exact ⟨by decide, rfl, hadds, hsource, hfront, Result.toOption_eq_some.1 hvariable,
    Result.toOption_eq_some.1 (hboth.symm.trans hvariable)⟩

/-- The branch of a version is taken as a number, and so loses the zero that it ends in. -/
theorem variable_loses_zero :
    let loader := ({} : Loader).withEnvironment "FEEDSTOCK_BOT"
    let toml := "[backend]\ndefault_base_branch = '1.10'"
    let branch := ("FEEDSTOCK_BOT_BACKEND__DEFAULT_BASE_BRANCH", "1.10")
    SaysText nothingThere (.text toml) .defaultBaseBranch "1.10" ∧
      endIn (inEnvironment nothingThere [branch]) loader.load = .ok { defaultBaseBranch := "1.1" } ∧
      endIn (inEnvironment nothingThere []) (loader.addText toml).load =
        .ok { defaultBaseBranch := "1.10" } := by
  intro loader toml branch
  have hsource : SaysText nothingThere (.text toml) .defaultBaseBranch "1.10" := by decide +kernel
  have hvariable : (endIn (inEnvironment nothingThere [branch]) loader.load).toOption =
      some { defaultBaseBranch := "1.1" } := by decide +kernel
  have hloaded : (endIn (inEnvironment nothingThere []) (loader.addText toml).load).toOption =
      some { defaultBaseBranch := "1.10" } := by decide +kernel
  exact ⟨hsource, Result.toOption_eq_some.1 hvariable, Result.toOption_eq_some.1 hloaded⟩

end Loader

end Settings

end PullRequestBot
