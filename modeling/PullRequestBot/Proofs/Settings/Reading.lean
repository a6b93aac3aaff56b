import PullRequestBot.Proofs.Result
import PullRequestBot.Proofs.Settings.Keyed
import PullRequestBot.Proofs.Settings.Naming

set_option autoImplicit false

/-! # What is read from a tree

Each setting has a type of values and a conversion to it. The settings that are read from a tree have, one
by one, the value that stands in the tree, converted, or else the default (`takes_ofTree`). It takes that
the keys of the tree are distinct and that the section of the setting is a table. -/

namespace PullRequestBot

/-! ## Settings one by one -/

namespace Setting

/-- The type of the values of a setting. -/
@[reducible] def Value : Setting → Type
  | dryRun | jsonLogs => Bool
  | outputLogLevel | fileLogLevel => Log.Level
  | logFile | lockFile | token => Option String
  | defaultBaseBranch | apiUrl | tokenVariable => String
  | requestTimeout | forkSettle | forkVisibilityAttempts | branchSync => Nat

/-- Converts a raw value to the type of a setting. -/
def convert : (setting : Setting) → Settings.Conversion setting.Value
  | dryRun | jsonLogs => Settings.boolean
  | outputLogLevel | fileLogLevel => Settings.level
  | logFile | lockFile | token => Settings.optional Settings.text
  | defaultBaseBranch | apiUrl | tokenVariable => Settings.text
  | requestTimeout | forkSettle | branchSync => Settings.natural
  | forkVisibilityAttempts => Settings.naturalOf 32

end Setting

namespace Settings

/-- The value of a setting. -/
def value (settings : Settings) : (setting : Setting) → setting.Value
  | .dryRun => settings.dryRun
  | .outputLogLevel => settings.outputLogLevel
  | .fileLogLevel => settings.fileLogLevel
  | .logFile => settings.logFile
  | .jsonLogs => settings.jsonLogs
  | .defaultBaseBranch => settings.defaultBaseBranch
  | .lockFile => settings.lockFile
  | .apiUrl => settings.apiUrl
  | .token => settings.token
  | .tokenVariable => settings.tokenVariable
  | .requestTimeout => settings.requestTimeout
  | .forkSettle => settings.forkSettle
  | .forkVisibilityAttempts => settings.forkVisibilityAttempts
  | .branchSync => settings.branchSync

/-- The settings with another value of one of them. -/
def update (settings : Settings) : (setting : Setting) → setting.Value → Settings
  | .dryRun, value => { settings with dryRun := value }
  | .outputLogLevel, value => { settings with outputLogLevel := value }
  | .fileLogLevel, value => { settings with fileLogLevel := value }
  | .logFile, value => { settings with logFile := value }
  | .jsonLogs, value => { settings with jsonLogs := value }
  | .defaultBaseBranch, value => { settings with defaultBaseBranch := value }
  | .lockFile, value => { settings with lockFile := value }
  | .apiUrl, value => { settings with apiUrl := value }
  | .token, value => { settings with token := value }
  | .tokenVariable, value => { settings with tokenVariable := value }
  | .requestTimeout, value => { settings with requestTimeout := value }
  | .forkSettle, value => { settings with forkSettle := value }
  | .forkVisibilityAttempts, value => { settings with forkVisibilityAttempts := value }
  | .branchSync, value => { settings with branchSync := value }

theorem value_update_self (settings : Settings) (setting : Setting) (new : setting.Value) :
    (settings.update setting new).value setting = new := by
  cases setting <;> rfl

theorem value_update_of_ne (settings : Settings) {setting other : Setting} (h : other ≠ setting)
    (new : setting.Value) : (settings.update setting new).value other = settings.value other := by
  cases setting <;> cases other <;> simp_all [update, value]

/-- A raw value is converted, then taken over. -/
theorem assign_eq (settings : Settings) (setting : Setting) (tree : Tree) :
    settings.assign setting tree = (setting.convert tree).map (settings.update setting) := by
  cases setting <;> rfl

/-! ## Steps of reading -/

variable {before after : Settings} {setting : Setting} {group : Section} {tree raw : Tree}
  {entries : List (String × Tree)}

/-- The value of a setting before it was read, if nothing stands for it, or else the converted one. -/
def Takes (setting : Setting) (raw : Option Tree) (before after : Settings) : Prop :=
  match raw with
  | none => after.value setting = before.value setting
  | some raw => setting.convert raw = .ok (after.value setting)

/-- Steps before and after may be added that leave the setting as it is. -/
theorem Takes.congr {first last : Settings} {raw : Option Tree} (h : Takes setting raw before after)
    (hbefore : before.value setting = first.value setting)
    (hafter : last.value setting = after.value setting) : Takes setting raw first last := by
  cases raw with
  | none => exact hafter.trans (Eq.trans h hbefore)
  | some raw => exact Eq.trans h (congrArg Except.ok hafter.symm)

/-- A setting that has another value than the raw one does not take it. -/
theorem not_takes {raw : Option Tree} {value : setting.Value}
    (hconvert : raw.bind (fun raw => (setting.convert raw).toOption) = some value)
    (hne : after.value setting ≠ value) : ¬ Takes setting raw before after := by
  intro h
  obtain ⟨raw, rfl, hvalue⟩ := Option.bind_eq_some_iff.1 hconvert
  exact hne (Except.ok.inj (Eq.trans (Eq.symm h) (Result.toOption_eq_some.1 hvalue)))

theorem assign_eq_ok (h : before.assign setting tree = .ok after) :
    ∃ value, setting.convert tree = .ok value ∧ after = before.update setting value := by
  rw [assign_eq] at h
  obtain ⟨value, hconvert, rfl⟩ := Result.map_eq_ok.1 h
  exact ⟨value, hconvert, rfl⟩

/-- Every key of a section names a setting of it. -/
theorem assignKey_eq_ok {key : String} (h : assignKey group before (key, raw) = .ok after) :
    ∃ (setting : Setting) (value : setting.Value), setting.group = group ∧ setting.key = key ∧
      setting.convert raw = .ok value ∧ after = before.update setting value := by
  unfold assignKey at h
  split at h
  · next setting hfound =>
      obtain ⟨value, hconvert, rfl⟩ := assign_eq_ok (Result.mapError_eq_ok.1 h)
      have hgroup : setting.group = group := by
        simpa using (List.mem_filter.1 (List.mem_of_find?_eq_some hfound)).2
      have hkey : setting.key = key := by simpa using List.find?_some hfound
      exact ⟨setting, value, hgroup, hkey, hconvert, rfl⟩
  · cases h

/-- Every key of the top table names a section. -/
theorem assignTop_eq_ok {key : String} (h : assignTop before (key, tree) = .ok after) :
    ∃ group : Section, group.name = key ∧ before.assignSection group tree = .ok after := by
  unfold assignTop at h
  split at h
  · next group hfound =>
      have hname : group.name = key := by simpa using List.find?_some hfound
      exact ⟨group, hname, Result.mapError_eq_ok.1 h⟩
  · cases h

/-! ## Sections -/

/-- A section changes no setting of another one. -/
theorem value_assignSection_of_ne (h : before.assignSection group tree = .ok after)
    (hother : setting.group ≠ group) : after.value setting = before.value setting := by
  have hkept : ∀ {other : Setting} {before after : Settings} {value : other.Value},
      other.group = group → after = before.update other value →
        after.value setting = before.value setting := by
    rintro other before after value hgroup rfl
    exact value_update_of_ne before (fun heq => hother ((congrArg Setting.group heq).trans hgroup)) value
  cases tree with
  | leaf value origin => cases h
  | array items origin =>
      refine Result.foldlM_keeps (fun reached => reached.value setting = before.value setting)
        (fun item hmem middle after hitem hmiddle => ?_) h rfl
      obtain ⟨value, -, hafter⟩ := assign_eq_ok (Result.mapError_eq_ok.1 hitem)
      have hgroup : item.1.1.group = group := by
        have hsetting := (List.of_mem_zip (List.fst_mem_of_mem_zipIdx hmem)).1
        simpa using (List.mem_filter.1 hsetting).2
      exact (hkept hgroup hafter).trans hmiddle
  | table entries origin =>
      refine Result.foldlM_keeps (fun reached => reached.value setting = before.value setting)
        (fun entry _ middle after hentry hmiddle => ?_) h rfl
      obtain ⟨other, value, hgroup, -, -, hafter⟩ := assignKey_eq_ok hentry
      exact (hkept hgroup hafter).trans hmiddle

/-- A section that is a table gives each of its settings what stands under its key. -/
theorem takes_assignKeys (hdistinct : (entries.map Prod.fst).Nodup)
    (h : entries.foldlM (assignKey group) before = .ok after) (hgroup : setting.group = group) :
    Takes setting (entries.lookup setting.key) before after := by
  induction entries generalizing before with
  | nil =>
      obtain rfl := Except.ok.inj h
      exact rfl
  | cons entry rest ih =>
      obtain ⟨key, raw⟩ := entry
      obtain ⟨hnew, hrest⟩ := List.nodup_cons.1 hdistinct
      rw [List.foldlM_cons] at h
      obtain ⟨middle, hentry, h⟩ := Result.bind_eq_ok.1 h
      obtain ⟨other, value, hother, hkey, hconvert, rfl⟩ := assignKey_eq_ok hentry
      have htakes := ih hrest h
      by_cases heq : setting = other
      · -- the keys are distinct, so the rest of the section does not name the setting again
        subst heq
        rw [HashTable.lookup_eq_none_iff.2 (hkey ▸ hnew)] at htakes
        rw [List.lookup_cons, hkey, beq_self_eq_true]
        show setting.convert raw = _
        rw [hconvert, htakes, value_update_self]
      · have hne : setting.key ≠ key := fun hsame =>
          heq (Setting.eq_of_key (hgroup.trans hother.symm) (hsame.trans hkey.symm))
        rw [List.lookup_cons, beq_eq_false_iff_ne.2 hne]
        exact htakes.congr (value_update_of_ne before heq value) rfl

theorem takes_assignSection (htree : tree.Keyed) (htable : tree.IsTable)
    (h : before.assignSection group tree = .ok after) (hgroup : setting.group = group) :
    Takes setting (tree.get? setting.key) before after := by
  cases htree with
  | leaf _ _ | array _ _ => exact htable.elim
  | table distinct _ => exact takes_assignKeys distinct h hgroup

/-! ## The whole -/

/-- What stands under the key of a setting in the table of its section. -/
def Tree.at? (tree : Tree) (setting : Setting) : Option Tree :=
  (tree.get? setting.group.name).bind fun group => group.get? setting.key

/-- The value of a setting before its section was read, if there is none, or else the one that the section
    makes of it. -/
def TakesSection (setting : Setting) (found : Option Tree) (before after : Settings) : Prop :=
  match found with
  | none => after.value setting = before.value setting
  | some group => ∃ middle reached : Settings, middle.value setting = before.value setting ∧
      middle.assignSection setting.group group = .ok reached ∧ after.value setting = reached.value setting

/-- What the entries of the top table make of a setting is what its section makes of it. -/
theorem takesSection_assignTops (hdistinct : (entries.map Prod.fst).Nodup)
    (h : entries.foldlM assignTop before = .ok after) :
    TakesSection setting (entries.lookup setting.group.name) before after := by
  induction entries generalizing before with
  | nil =>
      obtain rfl := Except.ok.inj h
      exact rfl
  | cons entry rest ih =>
      obtain ⟨key, tree⟩ := entry
      obtain ⟨hnew, hrest⟩ := List.nodup_cons.1 hdistinct
      rw [List.foldlM_cons] at h
      obtain ⟨middle, hentry, h⟩ := Result.bind_eq_ok.1 h
      obtain ⟨group, hkey, hsection⟩ := assignTop_eq_ok hentry
      have hlater := ih hrest h
      by_cases hgroup : setting.group = group
      · -- the rest of the top table does not name the section again
        subst hgroup
        rw [hkey, HashTable.lookup_eq_none_iff.2 hnew] at hlater
        rw [List.lookup_cons, hkey, beq_self_eq_true]
        exact ⟨before, middle, rfl, hsection, hlater⟩
      · have hne : setting.group.name ≠ key := fun hsame =>
          hgroup (Section.eq_of_name (hsame.trans hkey.symm))
        have hkept := value_assignSection_of_ne hsection hgroup
        rw [List.lookup_cons, beq_eq_false_iff_ne.2 hne]
        cases hfound : rest.lookup setting.group.name with
        | none =>
            rw [hfound] at hlater
            exact hlater.trans hkept
        | some found =>
            rw [hfound] at hlater
            obtain ⟨first, reached, hfirst, hreached, hafter⟩ := hlater
            exact ⟨first, reached, hfirst.trans hkept, hreached, hafter⟩

/-- What the entries of the top table give a setting whose section, if there is one, is a table. -/
theorem takes_assignTops (hdistinct : (entries.map Prod.fst).Nodup)
    (heach : ∀ entry ∈ entries, entry.2.Keyed)
    (htable : ∀ group, entries.lookup setting.group.name = some group → group.IsTable)
    (h : entries.foldlM assignTop before = .ok after) :
    Takes setting ((entries.lookup setting.group.name).bind fun group => group.get? setting.key)
      before after := by
  have htakes : TakesSection setting (entries.lookup setting.group.name) before after :=
    takesSection_assignTops hdistinct h
  cases hfound : entries.lookup setting.group.name with
  | none =>
      rw [hfound] at htakes
      exact htakes
  | some group =>
      rw [hfound] at htakes
      obtain ⟨middle, reached, hmiddle, hsection, hafter⟩ := htakes
      have hkeyed : group.Keyed := heach _ ((HashTable.lookup_eq_some_iff hdistinct).1 hfound)
      exact (takes_assignSection hkeyed (htable group hfound) hsection rfl).congr hmiddle hafter

/-- What is read of a setting is what stands in the tree, or else the default. -/
theorem takes_ofTree (htree : tree.Keyed)
    (htable : ∀ group, tree.get? setting.group.name = some group → group.IsTable)
    (h : ofTree tree = .ok after) : Takes setting (tree.at? setting) {} after := by
  cases htree with
  | leaf _ _ | array _ _ =>
      obtain rfl := Except.ok.inj h
      exact rfl
  | table distinct each => exact takes_assignTops distinct each htable h

/-- A check changes no value. -/
theorem checked_eq_ok (h : before.checked = .ok after) : after = before := by
  unfold checked at h
  split at h
  · exact (Except.ok.inj h).symm
  · cases h

/-- Only a leaf is converted. -/
theorem convert_eq_ok {value : setting.Value} (h : setting.convert raw = .ok value) :
    ∃ scalar origin, raw = .leaf scalar origin := by
  cases raw with
  | leaf scalar origin => exact ⟨scalar, origin, rfl⟩
  | array items origin => cases setting <;> cases h
  | table entries origin => cases setting <;> cases h

end Settings

end PullRequestBot
