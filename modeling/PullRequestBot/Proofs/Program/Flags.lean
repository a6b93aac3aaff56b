import PullRequestBot.Program
import PullRequestBot.Proofs.Host.World
import PullRequestBot.Proofs.Settings.Loading

set_option autoImplicit false

/-! # Flags in the settings

A flag of the command line is written as an override of the setting that it stands for, and read again as one.
The flags stand for different settings and come after all that is set one by one, so they take the place of
what was set under the same keys. The settings that are loaded have what the flags say, whatever the sources
and the environment hold, as long as nothing is set in place of the section of the flags or of an item of it:
chance decides what is set first there (`flags_reach_settings`). Blanks around the path of the log file are
lost on the way, as they are around every value that is overridden (`flag_loses_blanks`). -/

namespace PullRequestBot

open CommandLine (GlobalOptions)
open Dialogue (Always Leads Settles endIn)
open Settings (IsLook)
open Settings.Loader (Entry SparesSection)

/-! ## Flags as overrides -/

namespace CommandLine.GlobalOptions

/-- What the flag for the level of the console overrides. -/
def outputLevelEntry (level : Log.Level) : Entry :=
  ⟨.outputLogLevel, "global/output_log_level", toString level.number, by decide⟩

/-- What the flag for the level of the log file overrides. -/
def fileLevelEntry (level : Log.Level) : Entry :=
  ⟨.fileLogLevel, "global/file_log_level", toString level.number, by decide⟩

/-- What the flag for the log file overrides. -/
def logFileEntry (path : String) : Entry :=
  ⟨.logFile, "global/log_file", path, by decide⟩

/-- What the flag for a dry run overrides. -/
def dryRunEntry : Entry :=
  ⟨.dryRun, "global/dry_run", "true", by decide⟩

/-- The level of the log file: its own, or else that of the console. -/
def fileLevel? (options : GlobalOptions) : Option Log.Level :=
  options.fileLogLevel.or options.logLevel

/-- What the flags override, in order. -/
def flagEntries (options : GlobalOptions) : List Entry :=
  (options.logLevel.map outputLevelEntry).toList ++ (options.fileLevel?.map fileLevelEntry).toList ++
    (options.logFile.map logFileEntry).toList ++ if options.dryRun then [dryRunEntry] else []

theorem text_outputLevelEntry (level : Log.Level) :
    (outputLevelEntry level).text = s!"global/output_log_level={level.number}" := rfl

theorem text_fileLevelEntry (level : Log.Level) :
    (fileLevelEntry level).text = s!"global/file_log_level={level.number}" := rfl

theorem text_logFileEntry (path : String) : (logFileEntry path).text = s!"global/log_file={path}" := rfl

theorem text_dryRunEntry : dryRunEntry.text = "global/dry_run=true" := rfl

/-- The flags come last. -/
theorem overrides_eq (options : GlobalOptions) :
    options.overrides = options.assignments ++ options.flagEntries.map Entry.text := by
  have hgiven : ∀ {α : Type} (given : Option α) {entry : α → Entry} {text : α → String},
      (∀ value, (entry value).text = text value) →
        (given.map entry).toList.map Entry.text = (given.map text).toList := by
    intro α given entry text htext
    cases given with
    | none => rfl
    | some value => simp [htext]
  have hdryRun : (if options.dryRun then [dryRunEntry] else []).map Entry.text =
      if options.dryRun then ["global/dry_run=true"] else [] := by
    by_cases h : options.dryRun
    · simp [h, text_dryRunEntry]
    · simp [h]
  rw [overrides, flagEntries, List.map_append, List.map_append, List.map_append,
    hgiven _ text_outputLevelEntry, hgiven _ text_fileLevelEntry, hgiven _ text_logFileEntry, hdryRun]
  simp [fileLevel?]

/-- No two flags stand for the same setting. -/
theorem nodup_flagEntries (options : GlobalOptions) : (options.flagEntries.map Entry.setting).Nodup := by
  have hgiven : ∀ {α : Type} (given : Option α) {entry : α → Entry} {setting : Setting},
      (∀ value, (entry value).setting = setting) →
        ((given.map entry).toList.map Entry.setting).Sublist [setting] := by
    intro α given entry setting hsetting
    cases given with
    | none => exact List.nil_sublist _
    | some value => simp [hsetting]
  have hdryRun : ((if options.dryRun then [dryRunEntry] else []).map Entry.setting).Sublist [.dryRun] := by
    split
    · exact List.Sublist.refl _
    · exact List.nil_sublist _
  have hall : (options.flagEntries.map Entry.setting).Sublist
      ([.outputLogLevel] ++ [.fileLogLevel] ++ [.logFile] ++ [.dryRun]) := by
    rw [flagEntries, List.map_append, List.map_append, List.map_append]
    refine (((hgiven _ ?_).append (hgiven _ ?_)).append (hgiven _ ?_)).append hdryRun
    all_goals exact fun _ => rfl
  exact hall.nodup (by decide)

/-- All flags stand for settings of one section. -/
theorem group_of_mem_flagEntries {options : GlobalOptions} {entry : Entry}
    (h : entry ∈ options.flagEntries) : entry.setting.group = .global := by
  rw [flagEntries] at h
  simp only [List.mem_append, Option.mem_toList, Option.map_eq_some_iff] at h
  rcases h with ((⟨_, -, rfl⟩ | ⟨_, -, rfl⟩) | ⟨_, -, rfl⟩) | h
  · rfl
  · rfl
  · rfl
  · split at h
    · exact List.mem_singleton.1 h ▸ rfl
    · exact absurd h List.not_mem_nil

end CommandLine.GlobalOptions

namespace Program

open CommandLine.GlobalOptions

variable {options : GlobalOptions} {settings : Settings} {loader : Settings.Loader}

/-- Whatever the sources hold, the settings that are loaded have what each flag says. -/
theorem always_loadSettings_of_mem {entry : Entry} (hentry : entry ∈ options.flagEntries)
    (hloader : ∀ override ∈ loader.overrides, override.1.Spares .global)
    (hassignments : ∀ text ∈ options.assignments, SparesSection .global text) :
    (loadSettings loader options).Always IsLook (Settles
      (fun settings => entry.setting.convert (.leaf (.text (Text.strip entry.value)) none) =
        .ok (settings.value entry.setting)) fun _ => True) := by
  unfold loadSettings
  cases hoverride : loader.overrideAll options.overrides with
  | error failure => exact trivial
  | ok overridden =>
      rw [overrides_eq] at hoverride
      have hgroup := group_of_mem_flagEntries hentry
      exact Settings.Loader.always_load_of_mem (nodup_flagEntries options) hoverride hentry
        (hgroup ▸ hloader) (hgroup ▸ hassignments)

/-- A level is written and read again. -/
theorem level_number (level : Log.Level) :
    Settings.level (.leaf (.text (Text.strip (toString level.number))) none) = .ok level := by
  have hall : ∀ number : Fin 7, (Settings.level (.leaf (.text (Text.strip (toString number.val)))
      none)).toOption = some ⟨number.val, Nat.le_of_lt_succ number.isLt⟩ := by decide +kernel
  exact Result.toOption_eq_some.1 (hall ⟨level.number, Nat.lt_succ_of_le level.number_le⟩)

theorem convert_dryRunEntry :
    Setting.dryRun.convert (.leaf (.text (Text.strip dryRunEntry.value)) none) = .ok true :=
  Result.toOption_eq_some.1 (by decide +kernel)

/-- **Flags reach the settings.** If settings are loaded for a command line, whatever the sources and the
    environment are, and in whatever order chance sets what was given one by one and by flags, then they have
    what the flags say: the level of the console, where given; the level of the log file, or else that of the
    console, where one is given; the path of the log file without the blanks around it, where given; and a dry
    run, where asked for. What was given one by one may stand under the same keys as the flags, above, beside or
    below them, but for one thing: not in place of their whole section, nor of an item of it by its number. -/
theorem flags_reach_settings {said : List (Dialogue.Exchange Host.Answer)}
    (hloader : ∀ override ∈ loader.overrides, override.1.Spares .global)
    (hassignments : ∀ text ∈ options.assignments, SparesSection .global text)
    (h : (loadSettings loader options).Leads said (.ok settings)) :
    (∀ level, options.logLevel = some level → settings.outputLogLevel = level) ∧
      (∀ level, options.fileLogLevel.or options.logLevel = some level → settings.fileLogLevel = level) ∧
      (∀ path, options.logFile = some path → settings.logFile = some (Text.strip path)) ∧
      (options.dryRun = true → settings.dryRun = true) := by
  have hflag : ∀ entry ∈ options.flagEntries,
      entry.setting.convert (.leaf (.text (Text.strip entry.value)) none) =
        .ok (settings.value entry.setting) :=
    fun entry hentry => ((always_loadSettings_of_mem hentry hloader hassignments).leads h).2
  refine ⟨fun level hlevel => ?_, fun level hlevel => ?_, fun path hpath => ?_, fun hdryRun => ?_⟩
  · have hconvert := hflag (outputLevelEntry level) (by simp [flagEntries, hlevel])
    exact Except.ok.inj (hconvert.symm.trans (level_number level))
  · have hconvert := hflag (fileLevelEntry level) (by simp [flagEntries, fileLevel?, hlevel])
    exact Except.ok.inj (hconvert.symm.trans (level_number level))
  · exact Except.ok.inj (hflag (logFileEntry path) (by simp [flagEntries, hpath])).symm
  · have hconvert := hflag dryRunEntry (by simp [flagEntries, hdryRun])
    exact Except.ok.inj (hconvert.symm.trans convert_dryRunEntry)

/-- Flags, with other values set for the same settings in front of them. -/
def manyFlags : GlobalOptions where
  dryRun := true
  logLevel := some ⟨4, by decide⟩
  logFile := some "logs/a=b.log"
  assignments := ["global/dry_run=no", "global.log_file=c.log", "github/token=t0k3n"]

def levelLoader : Settings.Loader :=
  (({} : Settings.Loader).addText "[global]\noutput_log_level = 1\nfile_log_level = 1").withEnvironment
    environmentWord

def levelWorld : Host.World :=
  worldOf [] [("FEEDSTOCK_BOT_GLOBAL__FILE_LOG_LEVEL", "2")]

theorem manyFlags_reach_settings :
    let settings : Settings := {
      dryRun := true, outputLogLevel := ⟨4, by decide⟩, fileLogLevel := ⟨4, by decide⟩
      logFile := some "logs/a=b.log", token := some "t0k3n" }
    (∀ override ∈ levelLoader.overrides, override.1.Spares .global) ∧
      (∀ text ∈ manyFlags.assignments, SparesSection .global text) ∧
      endIn levelWorld (loadSettings levelLoader manyFlags) = .ok settings ∧
      (∀ level, manyFlags.logLevel = some level → settings.outputLogLevel = level) ∧
      (∀ level, manyFlags.fileLogLevel.or manyFlags.logLevel = some level → settings.fileLogLevel = level) ∧
      (∀ path, manyFlags.logFile = some path → settings.logFile = some (Text.strip path)) ∧
      (manyFlags.dryRun = true → settings.dryRun = true) := by
  intro settings
  have hloader : ∀ override ∈ levelLoader.overrides, override.1.Spares .global := nofun
  have hassignments : ∀ text ∈ manyFlags.assignments, SparesSection .global text := by decide +kernel
  have hresult : endIn levelWorld (loadSettings levelLoader manyFlags) = .ok settings :=
    Result.toOption_eq_some.1 (by decide +kernel)
  obtain ⟨said, hleads⟩ := Dialogue.exists_leads_endIn levelWorld (loadSettings levelLoader manyFlags)
  rw [hresult] at hleads
  exact ⟨hloader, hassignments, hresult, flags_reach_settings hloader hassignments hleads⟩

/-- The path of a log file may start and end with blanks, but the settings have it without them. -/
theorem flag_loses_blanks :
    let options : GlobalOptions := { logFile := some " x.log " }
    let settings : Settings := { logFile := some "x.log" }
    endIn nothingThere (loadSettings {} options) = .ok settings ∧ settings.logFile ≠ options.logFile := by
  intro options settings
  have hresult : (endIn nothingThere (loadSettings {} options)).toOption = some settings := by decide +kernel
  exact ⟨Result.toOption_eq_some.1 hresult, by decide⟩

end Program

end PullRequestBot
