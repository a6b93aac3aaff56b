import PullRequestBot.Proofs.Settings.Reading

set_option autoImplicit false

/-! # Steps of reading are uniform

Settings are read from a tree step by step. Whether a step succeeds does not depend on what was read before
it, and what it makes of a setting depends on that setting alone (`Uniform`). So steps succeed together if
each of them does (`Uniform.foldlM_ok_iff`), in whatever order they are taken. -/

namespace PullRequestBot.Settings

open Result (bind_eq_ok mapError_eq_ok)

variable {α : Type} {step : Settings → α → Except Mismatch Settings} {setting : Setting}
  {before after : Settings}

/-- Settings are known by their values. -/
theorem ext_value {settings settings' : Settings}
    (h : ∀ setting, settings.value setting = settings'.value setting) : settings = settings' := by
  cases settings
  cases settings'
  simp only [Settings.mk.injEq]
  exact ⟨h .dryRun, h .outputLogLevel, h .fileLogLevel, h .logFile, h .jsonLogs, h .defaultBaseBranch,
    h .lockFile, h .apiUrl, h .token, h .tokenVariable, h .requestTimeout, h .forkSettle,
    h .forkVisibilityAttempts, h .branchSync⟩

/-- A step of reading succeeds or not whatever was read before it, and what it makes of a setting depends on
    that setting alone. -/
def Uniform (step : Settings → α → Except Mismatch Settings) : Prop :=
  ∀ (item : α) (before after other : Settings), step before item = .ok after →
    ∃ reached, step other item = .ok reached ∧
      ∀ setting, before.value setting = other.value setting → after.value setting = reached.value setting

theorem uniform_assign (setting : Setting) : Uniform fun settings tree => settings.assign setting tree := by
  intro tree before after other h
  obtain ⟨value, hconvert, rfl⟩ := assign_eq_ok h
  refine ⟨other.update setting value, ?_, fun one hone => ?_⟩
  · show other.assign setting tree = _
    rw [assign_eq, hconvert]
    rfl
  · by_cases hsetting : one = setting
    · subst hsetting
      rw [value_update_self, value_update_self]
    · rw [value_update_of_ne before hsetting, value_update_of_ne other hsetting, hone]

theorem Uniform.mapError (h : Uniform step) (seen : α → Mismatch → Mismatch) :
    Uniform fun settings item => (step settings item).mapError (seen item) := by
  intro item before after other hstep
  obtain ⟨reached, hreached, hvalues⟩ := h item before after other (mapError_eq_ok.1 hstep)
  exact ⟨reached, mapError_eq_ok.2 hreached, hvalues⟩

theorem Uniform.foldlM (h : Uniform step) :
    Uniform fun settings (items : List α) => items.foldlM step settings := by
  intro items
  induction items with
  | nil =>
      intro before after other hitems
      obtain rfl := Except.ok.inj hitems
      exact ⟨other, rfl, fun _ => id⟩
  | cons item rest ih =>
      intro before after other hitems
      dsimp only at hitems ⊢
      rw [List.foldlM_cons] at hitems ⊢
      obtain ⟨middle, hitem, hrest⟩ := bind_eq_ok.1 hitems
      obtain ⟨middle', hitem', hmiddle⟩ := h item before middle other hitem
      obtain ⟨reached, hrest', hreached⟩ := ih middle after middle' hrest
      exact ⟨reached, bind_eq_ok.2 ⟨middle', hitem', hrest'⟩, fun setting hsetting =>
        hreached setting (hmiddle setting hsetting)⟩

/-- Steps succeed together if each of them does. -/
theorem Uniform.foldlM_ok_iff (h : Uniform step) {items : List α} (before : Settings) :
    (∃ after, items.foldlM step before = .ok after) ↔
      ∀ item ∈ items, ∃ after, step before item = .ok after := by
  induction items with
  | nil => simp [pure, Except.pure]
  | cons item rest ih =>
      rw [List.forall_mem_cons, ← ih]
      constructor
      · rintro ⟨after, hitems⟩
        rw [List.foldlM_cons] at hitems
        obtain ⟨middle, hitem, hrest⟩ := bind_eq_ok.1 hitems
        obtain ⟨reached, hreached, -⟩ := h.foldlM rest middle after before hrest
        exact ⟨⟨middle, hitem⟩, reached, hreached⟩
      · rintro ⟨⟨middle, hitem⟩, after, hrest⟩
        obtain ⟨reached, hreached, -⟩ := h.foldlM rest before after middle hrest
        refine ⟨reached, ?_⟩
        rw [List.foldlM_cons]
        exact bind_eq_ok.2 ⟨middle, hitem, hreached⟩

theorem uniform_assignKey (group : Section) : Uniform (assignKey group) := by
  intro entry before after other h
  unfold assignKey at h ⊢
  cases hfound : group.settings.find? fun setting => setting.key == entry.1 with
  | none =>
      rw [hfound] at h
      cases h
  | some setting =>
      rw [hfound] at h
      exact (uniform_assign setting).mapError (fun _ => (·.underKey entry.1)) entry.2 before after other h

theorem uniform_assignItem : Uniform assignItem := fun item before after other h =>
  (uniform_assign item.1.1).mapError (fun _ => (·.atItem item.2)) item.1.2 before after other h

theorem uniform_assignSection (group : Section) :
    Uniform fun settings tree => settings.assignSection group tree := by
  intro tree before after other h
  cases tree with
  | leaf value origin => cases h
  | array items origin => exact uniform_assignItem.foldlM _ before after other h
  | table entries origin => exact (uniform_assignKey group).foldlM entries before after other h

theorem assignTop_name (group : Section) (settings : Settings) (tree : Tree) :
    settings.assignTop (group.name, tree) =
      (settings.assignSection group tree).mapError (·.underKey group.name) := by
  cases group <;> rfl

theorem uniform_assignTop : Uniform assignTop := by
  intro entry before after other h
  obtain ⟨key, tree⟩ := entry
  obtain ⟨group, rfl, -⟩ := assignTop_eq_ok h
  rw [assignTop_name] at h ⊢
  exact (uniform_assignSection group).mapError (fun _ => (·.underKey group.name)) tree before after other h

theorem assignKey_key (setting : Setting) (settings : Settings) (raw : Tree) :
    assignKey setting.group settings (setting.key, raw) =
      (settings.assign setting raw).mapError (·.underKey setting.key) := by
  have hall : ∀ setting ∈ Setting.all,
      (setting.group.settings.find? fun other => other.key == setting.key) = some setting := by
    decide +kernel
  rw [assignKey, hall setting setting.mem_all]

/-- A key of a section is read if it names a setting that its value can be converted to. -/
theorem assignKey_ok_iff {group : Section} {key : String} {raw : Tree} :
    (∃ after, assignKey group before (key, raw) = .ok after) ↔
      ∃ setting : Setting, setting.group = group ∧ setting.key = key ∧
        ∃ value, setting.convert raw = .ok value := by
  constructor
  · rintro ⟨after, h⟩
    obtain ⟨setting, value, hgroup, hkey, hconvert, -⟩ := assignKey_eq_ok h
    exact ⟨setting, hgroup, hkey, value, hconvert⟩
  · rintro ⟨setting, rfl, rfl, value, hconvert⟩
    refine ⟨before.update setting value, ?_⟩
    rw [assignKey_key, mapError_eq_ok, assign_eq, hconvert]
    rfl

end PullRequestBot.Settings
