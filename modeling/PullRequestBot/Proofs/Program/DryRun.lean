import PullRequestBot.Proofs.Hosting.Call
import PullRequestBot.Proofs.Hosting.DryRunSilence
import PullRequestBot.Proofs.Program.Flags

set_option autoImplicit false

/-! # The flag for a dry run wins

If the flag for a dry run is on the command line, then the settings that are loaded ask for a dry run,
whatever the files and the environment say, as with every flag (`always_loadSettings_of_mem`). So no command
sends a request or starts a push (`dryRun_flag_wins`). What else the command line sets does not matter either,
unless it is set in place of the section of the flag or of an item of it: then it is left to chance whether
the flag wins, and the bot may well do what it was told not to (`dryRun_flag_loses`). -/

namespace PullRequestBot.Program

open Backend (StaysDry staysDry_run staysDry_pure staysDry_throw)
open CommandLine (Command GlobalOptions Preparation Push Proposal)
open Dialogue (Always Exchange Oracle Settles)
open Host (IsDry ask)
open Settings (IsLook)
open Settings.Loader (SparesSection)

variable {α : Type} {options : GlobalOptions} {settings : Settings} {listing : List String}

/-! ## Settings -/

/-- With the flag, the settings that are loaded ask for a dry run, whatever the sources hold. -/
theorem always_loadSettings {loader : Settings.Loader} (h : options.dryRun = true)
    (hloader : ∀ override ∈ loader.overrides, override.1.Spares .global)
    (hassignments : ∀ text ∈ options.assignments, SparesSection .global text) :
    (loadSettings loader options).Always IsLook
      (Settles (fun settings => settings.dryRun = true) fun _ => True) := by
  have hflag : GlobalOptions.dryRunEntry ∈ options.flagEntries := by simp [GlobalOptions.flagEntries, h]
  refine (always_loadSettings_of_mem hflag hloader hassignments).imp (fun _ => id) fun result hresult => ?_
  cases result with
  | error failure => exact trivial
  | ok settings => exact Except.ok.inj (hresult.symm.trans convert_dryRunEntry)

theorem isDry_of_isLook {q : Host.Question} (h : IsLook q) : IsDry q := by
  cases q with
  | run _ | send _ _ => exact h.elim
  | _ => exact trivial

theorem overrides_foldl_addFile (paths : List String) (loader : Settings.Loader) :
    (paths.foldl Settings.Loader.addFile loader).overrides = loader.overrides := by
  induction paths generalizing loader with
  | nil => rfl
  | cons path rest ih => exact ih _

/-- Files and variables are no overrides. -/
theorem always_loaderOf (options : GlobalOptions) :
    (loaderOf options).Always IsDry fun loader => loader.overrides = [] := by
  unfold loaderOf
  dsimp only
  split
  · exact overrides_foldl_addFile _ _
  · exact ⟨trivial, fun _ => overrides_foldl_addFile _ _⟩

/-! ## Commands -/

/-- A job that asks dry questions alone does so as well in the course of work with a backend. -/
theorem staysDry_aside {job : Job α} (h : job.Always IsDry fun _ => True) : StaysDry (aside job) :=
  fun _ hbackend => h.bind fun _ _ => hbackend

theorem always_printLine (line : String) : (printLine line).Always IsDry fun _ => True :=
  Dialogue.always_question trivial

theorem staysDry_printLine (line : String) : StaysDry (aside (printLine line)) :=
  staysDry_aside (always_printLine line)

theorem staysDry_prepare (settings : Settings) (preparation : Preparation) :
    StaysDry (prepare settings preparation) := by
  have hrest : StaysDry (do
      Backend.prepare preparation.repository.owner preparation.repository.name preparation.directory
        preparation.branch (preparation.base.getD settings.defaultBaseBranch)
      let head ← Backend.withClient (·.revParseHead preparation.directory)
      aside <| Host.tell .info .repositoryCommand "checkout ready"
        [("dir", .plain preparation.directory), ("branch", .plain preparation.branch),
          ("head", .plain head)]
      aside <| printLine s!"{preparation.directory}\t{preparation.branch}\t{head}") :=
    (staysDry_run (.prepare _ _ _ _ _)).bind fun _ =>
      (Backend.staysDry_withClient fun client =>
        client.triesLocally_revParseHead Git.permitsButPush_head _).bind fun _ =>
      (staysDry_aside Backend.always_tell).bind fun _ => staysDry_printLine _
  unfold prepare
  dsimp only
  split
  · exact (staysDry_aside Backend.always_tell).bind fun _ => hrest
  · exact (staysDry_run (.fork _ _)).bind fun _ => hrest

theorem staysDry_pushBranch (push : Push) : StaysDry (pushBranch push) := by
  have howner : StaysDry (pushOwner push) := by
    unfold pushOwner
    split
    · exact staysDry_run .login
    · exact staysDry_pure _
  exact howner.bind fun _ => (staysDry_run (.push _ _ _ _)).bind fun _ => staysDry_printLine _

theorem always_readText (path : String) : (readText path).Always IsDry fun _ => True := by
  unfold readText
  refine (Dialogue.always_question trivial).bind fun content _ => ?_
  cases content with
  | error cause => exact trivial
  | ok bytes =>
      dsimp only
      split
      · exact trivial
      · exact trivial

theorem always_readBody (proposal : Proposal) : (readBody proposal).Always IsDry fun _ => True := by
  unfold readBody
  cases proposal.bodyFile with
  | none => exact trivial
  | some path =>
      refine (always_readText path).bind fun text _ => ?_
      cases text with
      | ok text | error cause => exact trivial

theorem staysDry_openPullRequest (settings : Settings) (proposal : Proposal) :
    StaysDry (openPullRequest settings proposal) := by
  refine (staysDry_aside (always_readBody proposal)).bind fun body => ?_
  cases body with
  | error failure => exact staysDry_throw failure
  | ok body => exact (staysDry_run (.createPullRequest _ _ _ _ _ _)).bind fun _ => staysDry_printLine _

theorem always_showSettings (settings : Settings) (listing : List String) :
    (showSettings settings listing).Always IsDry fun _ => True := by
  have hloop (lines : List String) (text : String → String) :
      (forIn lines () fun line _ => do
        printLine (text line)
        return .yield ()).Always IsDry fun _ => True :=
    Dialogue.always_forIn fun line _ => (always_printLine (text line)).bind fun _ _ => trivial
  have hlines : (do
      for line in listing do printLine s!"# {line}"
      for line in settings.display do printLine line : Job Unit).Always IsDry fun _ => True :=
    (hloop listing (s!"# {·}")).bind fun _ _ => (hloop settings.display id).bind fun _ _ => trivial
  unfold showSettings
  dsimp only
  split
  · exact (always_printLine _).bind fun _ _ => hlines
  · exact hlines

/-- With settings that ask for a dry run, work with a backend only pretends. -/
theorem always_withBackend (hsettings : settings.dryRun = true) {work : Backend.Act Unit}
    (hwork : StaysDry work) : (withBackend settings work).run.Always IsDry fun _ => True := by
  refine ((Backend.always_ofSettings hsettings).imp (fun _ => id) fun result hresult => ?_).run_bind
    fun backend hbackend => (hwork backend hbackend).bind fun _ _ => trivial
  cases result with
  | ok backend => exact hresult
  | error failure => exact trivial

theorem always_perform (h : settings.dryRun = true) (listing : List String) (command : Option Command) :
    (perform settings listing command).run.Always IsDry fun _ => True := by
  cases command with
  | none => exact trivial
  | some command =>
      cases command with
      | version => exact ⟨trivial, fun _ => trivial⟩
      | options => exact (always_showSettings settings listing).bind fun _ _ => trivial
      | prepare preparation => exact always_withBackend h (staysDry_prepare settings preparation)
      | push push => exact always_withBackend h (staysDry_pushBranch push)
      | openPullRequest proposal => exact always_withBackend h (staysDry_openPullRequest settings proposal)
      | comment remark => exact always_withBackend h (staysDry_run (.comment _ _ _ _))
      | requestsLeft =>
          exact always_withBackend h ((staysDry_run .requestsLeft).bind fun _ => staysDry_printLine _)

theorem always_performLogged (h : settings.dryRun = true) (listing : List String)
    (command : Option Command) :
    (performLogged settings listing command).Always IsDry fun _ => True := by
  refine (always_perform h listing command).bind fun result _ => ?_
  cases result with
  | ok _ => exact trivial
  | error failure => exact ⟨trivial, fun _ => ⟨trivial, fun _ => trivial⟩⟩

/-! ## The log -/

/-- What becomes of events that are listened to is dry. -/
theorem always_answer (setup : Log.Setup) {q : Host.Question} (h : IsDry q) :
    (setup.answer q).Always IsDry fun _ => True := by
  cases q with
  | tell event =>
      have hconsole : (setup.writeConsole event).Always IsDry fun _ => True := by
        unfold Log.Setup.writeConsole
        split
        · exact ⟨trivial, fun _ => ⟨trivial, fun _ => trivial⟩⟩
        · exact trivial
      refine hconsole.bind fun _ _ => ?_
      unfold Log.Setup.writeFile
      split
      · exact trivial
      · split
        · exact ⟨trivial, fun _ => ⟨trivial, fun _ => trivial⟩⟩
        · exact trivial
  | _ => exact Dialogue.always_question h

theorem always_openFile (setup : Log.Setup) : setup.openFile.run.Always IsDry fun _ => True := by
  have hdirectory (path : String) : (Log.Setup.makeDirectory path).run.Always IsDry
      (Settles (fun _ => True) fun _ => True) := by
    unfold Log.Setup.makeDirectory
    split
    · exact trivial
    · exact trivial
    · refine ⟨trivial, fun made => ?_⟩
      cases made with
      | ok _ | error cause => exact trivial
  unfold Log.Setup.openFile
  split
  · exact trivial
  · refine (hdirectory _).run_bind fun _ _ => ⟨trivial, fun opened => ?_⟩
    cases opened with
    | ok _ | error cause => exact trivial

/-! ## The whole -/

theorem always_giveUp (text : String) : (giveUp text).Always IsDry fun _ => True :=
  ⟨trivial, fun _ => trivial⟩

/-- With the flag, only dry questions are asked. -/
theorem always_runLine {line : CommandLine} (h : line.options.dryRun = true)
    (hassignments : ∀ text ∈ line.options.assignments, SparesSection .global text) :
    (runLine line).Always IsDry fun _ => True := by
  unfold runLine
  split
  · exact ⟨trivial, fun _ => trivial⟩
  · refine (always_loaderOf line.options).bind fun loader hloader => ?_
    have hnone : ∀ override ∈ loader.overrides, override.1.Spares .global := by
      rw [hloader]
      exact fun _ hmem => absurd hmem List.not_mem_nil
    have hsettings := always_loadSettings h hnone hassignments
    refine (hsettings.imp (fun _ => isDry_of_isLook) fun _ => id).bind fun result hresult => ?_
    cases result with
    | error failure => exact always_giveUp _
    | ok settings =>
        refine (always_openFile _).bind fun opened _ => ?_
        cases opened with
        | error failure => exact always_giveUp _
        | ok _ =>
            exact (always_performLogged hresult loader.listing line.command).expandWith
              fun _ => always_answer _

/-- **The flag for a dry run wins.** If a command line has it, then, whatever the host answers, files,
    environment, processes and chance included: settings that are loaded ask for a dry run, wherever they come
    from, and in the whole run no request is sent and no push is started. What else stands on the command line
    does not matter, its other flags and what it sets one by one, under the key of the flag as well, but for
    one thing: nothing is set in place of the whole section of the flag, nor of an item of it by its number. -/
theorem dryRun_flag_wins {arguments : List String} {line : CommandLine}
    (hline : CommandLine.read arguments = .ok line) (h : line.options.dryRun = true)
    (hassignments : ∀ text ∈ line.options.assignments, SparesSection .global text)
    (host : Oracle Host.Answer) (past : List (Exchange Host.Answer)) :
    (∀ loader : Settings.Loader, (∀ override ∈ loader.overrides, override.1.Spares .global) →
      ∀ said settings, (loadSettings loader line.options).Leads said (.ok settings) →
        settings.dryRun = true) ∧
    ∀ exchange ∈ ((run arguments).transcript host past).1, IsDry exchange.question := by
  constructor
  · intro loader hloader said settings hleads
    exact ((always_loadSettings h hloader hassignments).leads hleads).2
  · have hrun : run arguments = runLine line := by rw [run, hline]
    rw [hrun]
    exact ((always_runLine h hassignments).leads (Dialogue.leads_transcript host past _)).1

/-- A command line with the flag, and with a setting that says the opposite. -/
def contradictingArguments : List String :=
  ["--dry-run", "--set", "global/dry_run=false", "push", "conda-forge/polars-feedstock", "--dir", "work",
    "--branch", "update"]

def contradictingLine : CommandLine where
  options := { dryRun := true, assignments := ["global/dry_run=false"] }
  command := some (.push ⟨⟨"conda-forge", "polars-feedstock"⟩, "work", "update", false⟩)

/-- A file and a variable that say the opposite as well. -/
def contradictingWorld : Host.World :=
  worldOf [("feedstock-bot.toml", "[global]\ndry_run = false")]
    [("FEEDSTOCK_BOT_GLOBAL__DRY_RUN", "false")]

theorem dryRun_flag_wins_contradicted :
    CommandLine.read contradictingArguments = .ok contradictingLine ∧
    contradictingLine.options.dryRun = true ∧
    (∀ text ∈ contradictingLine.options.assignments, SparesSection .global text) ∧
    Dialogue.endIn contradictingWorld (do
      loadSettings (← loaderOf contradictingLine.options) contradictingLine.options) =
        .ok { dryRun := true } ∧
    (∀ loader : Settings.Loader, (∀ override ∈ loader.overrides, override.1.Spares .global) →
      ∀ said settings, (loadSettings loader contradictingLine.options).Leads said (.ok settings) →
        settings.dryRun = true) ∧
    ∀ exchange ∈ ((run contradictingArguments).transcript (fun _ => contradictingWorld) []).1,
      IsDry exchange.question := by
  have hline : CommandLine.read contradictingArguments = .ok contradictingLine :=
    Result.toOption_eq_some.1 (by decide +kernel)
  have hassignments : ∀ text ∈ contradictingLine.options.assignments, SparesSection .global text := by
    decide +kernel
  have hload : Dialogue.endIn contradictingWorld (do
      loadSettings (← loaderOf contradictingLine.options) contradictingLine.options) =
        .ok { dryRun := true } :=
    Result.toOption_eq_some.1 (by decide +kernel)
  exact ⟨hline, rfl, hassignments, hload,
    dryRun_flag_wins hline rfl hassignments (fun _ => contradictingWorld) []⟩

/-- A command line with the flag, and with the first and the last item of its section set to the opposite. -/
def overlappingArguments : List String :=
  ["--dry-run", "--set", "global[0]=false", "--set", "global[-1]=false", "rate-limit"]

def overlappingLine : CommandLine where
  options := { dryRun := true, assignments := ["global[0]=false", "global[-1]=false"] }
  command := some .requestsLeft

/-- No files, and a token among the variables; chance sets the flag first. -/
def tokenWorld : Host.World :=
  worldOf [] [("BOT_TOKEN", "t0k3n")]

/-- If chance sets the flag before an item of its section, the section is what the items are, without the flag:
    the bot sends a request. -/
theorem dryRun_flag_loses :
    CommandLine.read overlappingArguments = .ok overlappingLine ∧
    overlappingLine.options.dryRun = true ∧
    Dialogue.endIn tokenWorld (do
      loadSettings (← loaderOf overlappingLine.options) overlappingLine.options) =
        .ok { dryRun := false } ∧
    ((run overlappingArguments).transcript (fun _ => tokenWorld) []).1.filterMap Live.sentAs? =
      [(.get, "https://api.github.com/rate_limit")] := by
  have hline : CommandLine.read overlappingArguments = .ok overlappingLine :=
    Result.toOption_eq_some.1 (by decide +kernel)
  have hload : Dialogue.endIn tokenWorld (do
      loadSettings (← loaderOf overlappingLine.options) overlappingLine.options) =
        .ok { dryRun := false } :=
    Result.toOption_eq_some.1 (by decide +kernel)
  refine ⟨hline, rfl, hload, ?_⟩
  decide +kernel

end PullRequestBot.Program
