import PullRequestBot.Proofs.Git.Locality
import PullRequestBot.Proofs.Git.Operation
import PullRequestBot.Proofs.Host.Alike
import PullRequestBot.Proofs.Host.World
import PullRequestBot.Proofs.Result

set_option autoImplicit false

/-! # What masking decides

Registering tokens is to change texts alone: with any two sets of them, an operation should start the same
processes and end alike. It does, but for two operations that take a decision on a masked text: whether a
remote is listed, and whether an answer is a commit id. `tokens_change_texts_only_iff` says exactly when that
shows, and `masked_listing_hides_remote` that it can. -/

namespace PullRequestBot.Git

open Dialogue (Always Exchange Oracle Settles)
open Host (Alike IsEvent StartsNothing ask deaf results started tell)

variable {α β α' β' : Type}

/-! ## Ending alike -/

/-- Both succeed, with related values, or both fail with the same kind of git failure. -/
inductive EndAlike (related : α → β → Prop) : Except Failure α → Except Failure β → Prop where
  | ok {value : α} {value' : β} (h : related value value') : EndAlike related (.ok value) (.ok value')
  | git {reason reason' : GitFailure} (h : reason.ctorIdx = reason'.ctorIdx) :
      EndAlike related (.error (.git reason)) (.error (.git reason'))

theorem not_endAlike_ok_error {related : α → β → Prop} {value : α} {failure : Failure} :
    ¬ EndAlike related (.ok value) (.error failure) := nofun

theorem not_endAlike_error_ok {related : α → β → Prop} {failure : Failure} {value : β} :
    ¬ EndAlike related (.error failure) (.ok value) := nofun

/-- Two attempts act alike, and end so. -/
def TryAlike (related : α → β → Prop) (attempt : Attempt α) (attempt' : Attempt β) : Prop :=
  Alike (fun _ => EndAlike related) attempt.run attempt'.run

theorem tryAlike_pure {related : α → β → Prop} {value : α} {value' : β} (h : related value value') :
    TryAlike related (pure value) (pure value') :=
  .done (.ok h)

theorem tryAlike_failGit {related : α → β → Prop} {reason reason' : GitFailure}
    (h : reason.ctorIdx = reason'.ctorIdx) :
    TryAlike related (Attempt.failGit reason) (Attempt.failGit reason') :=
  .done (.git h)

theorem TryAlike.bind {middle : α → β → Prop} {related : α' → β' → Prop} {first : Attempt α}
    {first' : Attempt β} {next : α → Attempt α'} {next' : β → Attempt β'} (h : TryAlike middle first first')
    (hnext : ∀ value value', middle value value' → TryAlike related (next value) (next' value')) :
    TryAlike related (first >>= next) (first' >>= next') := by
  rw [TryAlike, ExceptT.run_bind, ExceptT.run_bind]
  refine Alike.bind h fun _ result result' hresult => ?_
  cases hresult with
  | ok hvalue => exact hnext _ _ hvalue
  | git hreason => exact .done (.git hreason)

theorem TryAlike.imp {related related' : α → α → Prop} {attempt attempt' : Attempt α}
    (h : TryAlike related attempt attempt')
    (hrelated : ∀ value value', related value value' → related' value value') :
    TryAlike related' attempt attempt' := by
  refine Alike.imp h fun _ _ _ hend => ?_
  cases hend with
  | ok hvalue => exact .ok (hrelated _ _ hvalue)
  | git hreason => exact .git hreason

/-- A job that starts nothing may come first on both sides. -/
theorem TryAlike.bind_self {γ : Type} {related : α → β → Prop} {job : Job γ}
    (hjob : job.Always StartsNothing fun _ => True) {next : γ → Attempt α} {next' : γ → Attempt β}
    (h : ∀ value, TryAlike related (next value) (next' value)) :
    TryAlike related (liftM job >>= next) (liftM job >>= next') :=
  (Host.alike_self hjob).lift_bind fun _ value _ hvalue => hvalue.2.1 ▸ h value

/-- Both sides may tell of an event first. -/
theorem TryAlike.tell_bind {related : α → β → Prop} {severity : Log.Severity} {source : Log.Source}
    {message message' : String} {fields fields' : List (String × Log.Value)} {next : Unit → Attempt α}
    {next' : Unit → Attempt β} (h : TryAlike related (next ()) (next' ())) :
    TryAlike related (liftM (tell severity source message fields) >>= next)
      (liftM (tell severity source message' fields') >>= next') :=
  .tellFirst (.tellSecond h)

/-- Looks that act alike may come first. -/
theorem TryAlike.lift_bind {middle : α → β → Prop} {related : α' → β' → Prop} {look : Job α}
    {look' : Job β} {next : α → Attempt α'} {next' : β → Attempt β'}
    (h : Alike (fun _ => middle) look look')
    (hnext : ∀ value value', middle value value' → TryAlike related (next value) (next' value')) :
    TryAlike related (liftM look >>= next) (liftM look' >>= next') :=
  Alike.lift_bind h fun _ => hnext

theorem tryAlike_lift {related : α → α → Prop} {look look' : Job α}
    (h : Alike (fun _ => related) look look') : TryAlike related (ExceptT.lift look) (ExceptT.lift look') :=
  h.bind fun _ _ _ hvalue => .done (.ok hvalue)

/-! ## Runs of git -/

/-- What stays local, with no arguments for git permitted, starts nothing. -/
theorem StaysLocal.startsNothing {job : Job α} (h : StaysLocal (fun _ => False) job) :
    job.Always StartsNothing fun _ => True := by
  refine Always.imp h (fun question hlocal => ?_) fun _ _ => trivial
  cases question with
  | run process => exact hlocal.elim
  | _ => exact trivial

namespace Lock

/-- Nothing is started, and a failure is one of the lock. -/
def StartsNone (attempt : Attempt α) : Prop :=
  attempt.run.Always StartsNothing
    (Settles (fun _ => True) fun failure => ∃ path cause, failure = .git (.lock path cause))

theorem startsNone_need {path : String} {job : Job (Except SystemFailure Unit)}
    (h : job.Always StartsNothing fun _ => True) : StartsNone (need path job) := by
  refine Always.run_lift_bind h fun answer => ?_
  cases answer with
  | ok _ => exact trivial
  | error cause => exact ⟨_, _, rfl⟩

/-- Waiting for the lock starts nothing. -/
theorem startsNone_acquire (lock : Lock) : StartsNone lock.acquire := by
  cases lock with
  | none => exact trivial
  | file path =>
      have habove : StartsNone (need path (ask (.makeDirectories ((Path.parent path).getD "")))) :=
        startsNone_need (Dialogue.always_question trivial)
      have hlock : StartsNone (need path (ask (.lockFile path))) :=
        startsNone_need (Dialogue.always_question trivial)
      unfold acquire
      dsimp only
      split
      · exact Always.run_bind habove fun _ _ => hlock
      · exact hlock

end Lock

namespace Runner

/-- The runner with other tokens to mask. -/
def masking (runner : Runner) (redactor : Redactor) : Runner :=
  { runner with redactor := redactor }

/-- Whether a command that ended so has an output. -/
def Passes (options : RunOptions) (outcome : Host.Outcome) : Prop :=
  outcome.exitCode = 0 ∨ options.allowsFailure = true

/-- How runs with different tokens fail: in the same way, with texts that may differ. -/
inductive FailAlike : GitFailure → GitFailure → Prop where
  | commandFailed (text text' : String) (exitCode : Option Int) :
      FailAlike (.commandFailed text exitCode) (.commandFailed text' exitCode)
  | executableNotFound (name : String) : FailAlike (.executableNotFound name) (.executableNotFound name)
  | spawn (command command' : String) (cause : SystemFailure) :
      FailAlike (.spawn command cause) (.spawn command' cause)
  | lock (path : String) (cause : SystemFailure) : FailAlike (.lock path cause) (.lock path cause)

theorem FailAlike.ctorIdx_eq {reason reason' : GitFailure} (h : FailAlike reason reason') :
    reason.ctorIdx = reason'.ctorIdx := by
  cases h <;> rfl

/-- No run fails because a remote exists. -/
theorem FailAlike.ctorIdx_ne {reason reason' : GitFailure} (h : FailAlike reason reason') (name : String) :
    reason.ctorIdx ≠ (GitFailure.remoteExists name).ctorIdx := by
  cases h <;> exact nofun

/-- How runs with different tokens end: with the outputs of the same process, or alike in failure. -/
inductive RunEnds (runner runner' : Runner) (options : RunOptions) :
    List (Except SystemFailure Host.Outcome) → Except Failure Output → Except Failure Output → Prop where
  | passed {outcome : Host.Outcome} (h : Passes options outcome) :
      RunEnds runner runner' options [.ok outcome] (.ok (runner.outputOf options outcome))
        (.ok (runner'.outputOf options outcome))
  | refused {outcome : Host.Outcome} {reason reason' : GitFailure} (h : ¬ Passes options outcome)
      (hreason : FailAlike reason reason') :
      RunEnds runner runner' options [.ok outcome] (.error (.git reason)) (.error (.git reason'))
  | unstarted {ended : List (Except SystemFailure Host.Outcome)} {reason reason' : GitFailure}
      (h : ∀ outcome, ended.head? ≠ some (.ok outcome)) (hreason : FailAlike reason reason') :
      RunEnds runner runner' options ended (.error (.git reason)) (.error (.git reason'))

variable (runner : Runner) (first second : Redactor)

theorem always_tell {severity : Log.Severity} {source : Log.Source} {message : String}
    {fields : List (String × Log.Value)} :
    (tell severity source message fields).Always IsEvent fun _ => True :=
  Dialogue.always_question trivial

theorem always_tellError (severity : Log.Severity) (message : String) (stderr : Option String) :
    (tellError severity message stderr).Always IsEvent fun _ => True := by
  cases stderr with
  | none => exact trivial
  | some text =>
      rw [tellError]
      split
      · exact trivial
      · exact Dialogue.always_question trivial

theorem always_tellDirectory (directory : Option String) :
    (runner.tellDirectory directory).Always IsEvent fun _ => True := by
  cases directory with
  | none => exact trivial
  | some path => exact Dialogue.always_question trivial

/-- What a finished process means does not depend on the tokens. -/
theorem alike_conclude (arguments : List String) (options : RunOptions) (outcome : Host.Outcome) :
    Alike (fun later =>
        RunEnds (runner.masking first) (runner.masking second) options (.ok outcome :: later))
      ((runner.masking first).conclude arguments options outcome).run
      ((runner.masking second).conclude arguments options outcome).run := by
  unfold conclude
  dsimp only
  have hsuccess : ∀ redactor, ((runner.masking redactor).outputOf options outcome).isSuccess =
      (outcome.exitCode == 0) := fun _ => rfl
  rw [hsuccess, hsuccess]
  split
  · next hpasses =>
      have hpassed : Passes options outcome := by simpa [Passes] using hpasses
      refine .tells_bind (always_tellError _ _ _) (always_tellError _ _ _) fun _ _ => ?_
      exact .tellFirst (.tellSecond (.done (.passed hpassed)))
  · next hpasses =>
      have hrefused : ¬ Passes options outcome := by simpa [Passes] using hpasses
      refine .tells_bind always_tell always_tell fun _ _ => ?_
      refine .tells_bind (always_tellError _ _ _) (always_tellError _ _ _) fun _ _ => ?_
      exact .done (.refused hrefused (.commandFailed _ _ _))

/-- Nor does the failure to start git. -/
theorem alike_startFailure (arguments : List String) (directory : Option String) (options : RunOptions)
    (cause : SystemFailure) :
    Alike (fun later =>
        RunEnds (runner.masking first) (runner.masking second) options (.error cause :: later))
      ((runner.masking first).startFailure arguments directory cause : Attempt Output).run
      ((runner.masking second).startFailure arguments directory cause : Attempt Output).run := by
  have hends (isThere : Bool) (redactor redactor' : Redactor) :
      Alike (fun later => RunEnds (runner.masking first) (runner.masking second) options
          (.error cause :: later))
        (if cause.isNotFound && isThere then Attempt.failGit (.executableNotFound runner.executable)
          else Attempt.failGit (.spawn ((runner.masking redactor).commandLine arguments) cause) :
            Attempt Output).run
        (if cause.isNotFound && isThere then Attempt.failGit (.executableNotFound runner.executable)
          else Attempt.failGit (.spawn ((runner.masking redactor').commandLine arguments) cause) :
            Attempt Output).run := by
    split
    · exact .done (.unstarted nofun (.executableNotFound _))
    · exact .done (.unstarted nofun (.spawn _ _ _))
  cases directory with
  | none => exact hends true first second
  | some path => exact .ask trivial fun kind => hends kind.isSome first second

theorem alike_run (arguments : List String) (directory : Option String) (options : RunOptions) :
    Alike (RunEnds (runner.masking first) (runner.masking second) options)
      ((runner.masking first).run arguments directory options).run
      ((runner.masking second).run arguments directory options).run := by
  unfold run
  refine .tells_bind (always_tellDirectory _ directory) (always_tellDirectory _ directory) fun _ _ => ?_
  refine .tells_bind always_tell always_tell fun _ _ => ?_
  rw [ExceptT.run_bind, ExceptT.run_bind]
  refine (Host.alike_self runner.lock.startsNone_acquire).bind fun _ _ result hresult => ?_
  obtain ⟨rfl, rfl, hsure⟩ := hresult
  cases result with
  | error failure =>
      obtain ⟨path, cause, rfl⟩ := hsure
      exact .done (.unstarted nofun (.lock path cause))
  | ok _ =>
      refine .run rfl fun ended => ?_
      have hrelease := Host.alike_self runner.lock.staysLocal_release.startsNothing
      refine hrelease.lift_bind fun _ _ _ hreleased => ?_
      obtain ⟨rfl, -, -⟩ := hreleased
      cases ended with
      | ok outcome => exact runner.alike_conclude first second arguments options outcome
      | error cause => exact runner.alike_startFailure first second arguments directory options cause

end Runner

/-! ## Transcripts -/

/-- The same processes are started, and the ends are alike. -/
structure ActAlike (related : α → α → Prop)
    (said said' : List (Exchange Host.Answer) × Except Failure α) : Prop where
  processes : started said.1 = started said'.1
  ends : EndAlike related said.2 said'.2

theorem TryAlike.actAlike {related : α → α → Prop} {attempt attempt' : Attempt α}
    (h : TryAlike related attempt attempt') (host : Oracle Host.Answer)
    (past : List (Exchange Host.Answer)) :
    ActAlike related (attempt.run.transcript (deaf host) past)
      (attempt'.run.transcript (deaf host) past) := by
  have hpast : past.filterMap Host.heard? = past.filterMap Host.heard? := rfl
  obtain ⟨hheard, hends⟩ := h.transcripts host hpast
  exact ⟨Host.started_congr hheard, hends⟩

/-- Where a look is followed by what depends on it, both sides act alike exactly if they find the same. -/
theorem actAlike_iff {related : α → α → Prop} {runner runner' : Runner} {options : RunOptions}
    {look look' : Attempt Output} {next next' : Output → Attempt α} {finds finds' : Host.Outcome → Bool}
    (hlook : Alike (Runner.RunEnds runner runner' options) look.run look'.run)
    (hrefused : ∀ outcome, ¬ Runner.Passes options outcome → finds outcome = finds' outcome)
    (hsame : ∀ outcome, Runner.Passes options outcome → finds outcome = finds' outcome →
      TryAlike related (next (runner.outputOf options outcome)) (next' (runner'.outputOf options outcome)))
    (hdiffer : ∀ outcome, Runner.Passes options outcome → finds outcome ≠ finds' outcome →
      ∀ (host : Oracle Host.Answer) past past', ¬ EndAlike related
        ((next (runner.outputOf options outcome)).run.transcript (deaf host) past).2
        ((next' (runner'.outputOf options outcome)).run.transcript (deaf host) past').2)
    (host : Oracle Host.Answer) (past : List (Exchange Host.Answer)) :
    ActAlike related ((look >>= next).run.transcript (deaf host) past)
        ((look' >>= next').run.transcript (deaf host) past) ↔
      ∀ outcome, (results ((look >>= next).run.transcript (deaf host) past).1).head? =
        some (.ok outcome) → finds outcome = finds' outcome := by
  have hpast : past.filterMap Host.heard? = past.filterMap Host.heard? := rfl
  obtain ⟨hheard, hends⟩ := hlook.transcripts host hpast
  rw [Dialogue.transcript_run_bind, Dialogue.transcript_run_bind]
  generalize look.run.transcript (deaf host) past = looked at *
  generalize look'.run.transcript (deaf host) past = looked' at *
  obtain ⟨before, result⟩ := looked
  obtain ⟨before', result'⟩ := looked'
  dsimp only at *
  rw [Host.results_append]
  have hstarted {later later' : List (Exchange Host.Answer)} (hlater : started later = started later') :
      started (before ++ later) = started (before' ++ later') := by
    rw [Host.started_append, Host.started_append, Host.started_congr hheard, hlater]
  generalize results before = ended at *
  cases hends with
  | @passed outcome hpassed =>
      by_cases hfinds : finds outcome = finds' outcome
      · refine iff_of_true ?_ fun outcome' houtcome => ?_
        · have hnow : (past ++ before).filterMap Host.heard? = (past ++ before').filterMap Host.heard? := by
            rw [List.filterMap_append, List.filterMap_append, hheard]
          obtain ⟨hlater, hend⟩ := (hsame outcome hpassed hfinds).transcripts host hnow
          exact ⟨hstarted (Host.started_congr hlater), hend⟩
        · obtain rfl := Except.ok.inj (Option.some.inj houtcome)
          exact hfinds
      · exact iff_of_false (fun h => hdiffer outcome hpassed hfinds host _ _ h.ends)
          fun h => hfinds (h outcome rfl)
  | @refused outcome reason reason' hrefuses hreason =>
      refine iff_of_true ⟨hstarted rfl, .git hreason.ctorIdx_eq⟩ fun outcome' houtcome => ?_
      obtain rfl := Except.ok.inj (Option.some.inj houtcome)
      exact hrefused outcome hrefuses
  | unstarted hunstarted hreason =>
      refine iff_of_true ⟨hstarted rfl, .git hreason.ctorIdx_eq⟩ fun outcome houtcome => ?_
      have hhead : (ended ++ []).head? = some (.ok outcome) := houtcome
      rw [List.append_nil] at hhead
      exact absurd hhead (hunstarted outcome)

/-! ## Operations -/

namespace Client

/-- The client with other tokens to mask. -/
def masking (client : Client) (redactor : Redactor) : Client :=
  ⟨client.runner.masking redactor⟩

variable (client : Client) (first second : Redactor)

theorem tryAlike_run (arguments : List String) (directory : Option String) (options : RunOptions) :
    TryAlike (fun output output' => output'.isSuccess = output.isSuccess)
      ((client.masking first).runner.run arguments directory options)
      ((client.masking second).runner.run arguments directory options) := by
  refine (client.runner.alike_run first second arguments directory options).imp
    fun _ result result' hends => ?_
  cases hends with
  | passed h => exact .ok rfl
  | refused h hreason | unstarted h hreason => exact .git hreason.ctorIdx_eq

theorem tryAlike_perform (directory : String) (command : Command) :
    TryAlike Eq ((client.masking first).perform directory command)
      ((client.masking second).perform directory command) :=
  (client.tryAlike_run first second command.arguments (some directory) {}).bind
    fun _ _ _ => tryAlike_pure rfl

/-- What sees no more of a process than whether it succeeded goes on alike. -/
theorem alike_verdict (arguments : List String) (directory : Option String) (options : RunOptions)
    {next : Except Failure Output → Job Bool}
    (hok : ∀ output output' : Output, output'.isSuccess = output.isSuccess →
      Alike (fun _ => Eq) (next (.ok output)) (next (.ok output')))
    (herror : ∀ failure failure' : Failure,
      Alike (fun _ => Eq) (next (.error failure)) (next (.error failure'))) :
    Alike (fun _ => Eq)
      (((client.masking first).runner.run arguments directory options).run >>= next)
      (((client.masking second).runner.run arguments directory options).run >>= next) := by
  refine Alike.bind (client.tryAlike_run first second arguments directory options)
    fun _ result result' hend => ?_
  cases hend with
  | ok hsuccess => exact hok _ _ hsuccess
  | git _ => exact herror _ _

/-- What a probe finds does not depend on the tokens. -/
theorem alike_probe (directory : Option String) (command : Command) :
    Alike (fun _ => Eq) ((client.masking first).probe directory command)
      ((client.masking second).probe directory command) := by
  cases directory with
  | none =>
      exact client.alike_verdict first second _ none _ (fun _ _ hsuccess => .done hsuccess.symm)
        fun _ _ => .done rfl
  | some path =>
      refine .ask trivial fun kind => ?_
      show Alike _ (if kind ≠ some .directory then pure false else _)
        (if kind ≠ some .directory then pure false else _)
      split
      · exact .done rfl
      · exact client.alike_verdict first second _ (some path) _
          (fun _ _ hsuccess => .done hsuccess.symm) fun _ _ => .done rfl

theorem tryAlike_failed (command : Command) (exitCode exitCode' : Int) :
    TryAlike (Eq : α → α → Prop) ((client.masking first).failed command exitCode)
      ((client.masking second).failed command exitCode') :=
  .tell_bind (tryAlike_failGit rfl)

theorem tryAlike_stage (directory : String) (paths : List String) (all : Bool) :
    TryAlike Eq ((client.masking first).stage directory paths all)
      ((client.masking second).stage directory paths all) := by
  unfold stage
  split
  · exact tryAlike_failGit rfl
  · exact client.tryAlike_perform first second directory _

theorem tryAlike_clone (url target : String) :
    TryAlike Eq ((client.masking first).clone url target) ((client.masking second).clone url target) := by
  refine .bind_self (staysLocal_isTaken target).startsNothing fun taken => ?_
  cases taken with
  | true => exact tryAlike_failGit rfl
  | false =>
      refine (client.tryAlike_run first second _ none _).bind fun output output' hsuccess => ?_
      dsimp only
      rw [hsuccess]
      split
      · exact .tell_bind (tryAlike_failGit rfl)
      · exact tryAlike_pure rfl

theorem tryAlike_checkout (directory branch : String) (track : Bool) :
    TryAlike Eq ((client.masking first).checkout directory branch track)
      ((client.masking second).checkout directory branch track) := by
  refine (client.tryAlike_run first second _ (some directory) _).bind fun output output' hsuccess => ?_
  dsimp only
  rw [hsuccess]
  split
  · refine .lift_bind (client.alike_probe first second (some directory) (.showRef _))
      fun there there' hthere => ?_
    subst hthere
    split
    · cases track with
      | true | false => exact tryAlike_failGit rfl
    · exact client.tryAlike_failed first second _ _ _
  · exact tryAlike_pure rfl

theorem tryAlike_diffedFiles (directory since : String) :
    TryAlike (fun _ _ => True) ((client.masking first).diffedFiles directory since)
      ((client.masking second).diffedFiles directory since) := by
  have hlisting : TryAlike (fun _ _ => True) ((client.masking first).listChanges directory since)
      ((client.masking second).listChanges directory since) :=
    (client.tryAlike_run first second _ (some directory) {}).bind fun _ _ _ => tryAlike_pure trivial
  exact hlisting.bind fun _ _ _ => tryAlike_pure trivial

/-! ## Decisions on masked texts -/

/-- Whether an operation finds what it looks for in the masked output of its first process: a remote of that
    name, or a commit id. -/
def recognizes (client : Client) : Operation → Host.Outcome → Bool
  | .addRemote _ name _, outcome =>
    outcome.exitCode == 0 && listsRemote (client.runner.redact (Text.Utf8.decodeLossy outcome.output)) name
  | .revParseHead _, outcome =>
    outcome.exitCode == 0 &&
      isCommitId (Text.trim (client.runner.redact (Text.Utf8.decodeLossy outcome.output)).toList)
  | _, _ => false

/-- A command never fails because a remote exists. -/
theorem perform_ne_remoteExists (directory : String) (command : Command) (host : Oracle Host.Answer)
    (past : List (Exchange Host.Answer)) (name : String) {related : Unit → Unit → Prop} :
    let result := ((client.perform directory command).run.transcript (deaf host) past).2
    ¬ EndAlike related (.error (.git (.remoteExists name))) result ∧
      ¬ EndAlike related result (.error (.git (.remoteExists name))) := by
  have hpast : past.filterMap Host.heard? = past.filterMap Host.heard? := rfl
  have hrun : Alike (Runner.RunEnds client.runner client.runner {}) (client.run directory command).run
      (client.run directory command).run :=
    client.runner.alike_run client.runner.redactor client.runner.redactor _ (some directory) {}
  obtain ⟨-, hends⟩ := hrun.transcripts host hpast
  rw [perform, Dialogue.transcript_run_bind]
  generalize (client.run directory command).run.transcript (deaf host) past = ran at *
  obtain ⟨before, result⟩ := ran
  dsimp only at *
  generalize results before = ended at hends
  cases hends with
  | passed _ => exact ⟨not_endAlike_error_ok, not_endAlike_ok_error⟩
  | refused _ hreason | unstarted _ hreason =>
      refine ⟨fun hend => ?_, fun hend => ?_⟩
      · cases hend with
        | git hsame => exact hreason.ctorIdx_ne name hsame.symm
      · cases hend with
        | git hsame => exact hreason.ctorIdx_ne name hsame

theorem actAlike_addRemote_iff (directory name url : String) (host : Oracle Host.Answer)
    (past : List (Exchange Host.Answer)) :
    let run (redactor : Redactor) :=
      ((client.masking redactor).addRemote directory name url).run.transcript (deaf host) past
    ActAlike (fun _ _ => True) (run first) (run second) ↔
      ∀ outcome, (results (run first).1).head? = some (.ok outcome) →
        (client.masking first).recognizes (.addRemote directory name url) outcome =
          (client.masking second).recognizes (.addRemote directory name url) outcome := by
  refine actAlike_iff (client.runner.alike_run first second _ (some directory) { allowsFailure := true })
    (fun outcome hrefused => absurd (Or.inr rfl) hrefused) (fun outcome _ hsame => ?_)
    (fun outcome _ hdiffer host past past' => ?_) host past
  · show TryAlike (fun _ _ => True)
      (if (client.masking first).recognizes (.addRemote directory name url) outcome then _ else _)
      (if (client.masking second).recognizes (.addRemote directory name url) outcome then _ else _)
    rw [hsame]
    split
    · exact tryAlike_failGit rfl
    · exact (client.tryAlike_perform first second directory _).imp fun _ _ _ => trivial
  · show ¬ EndAlike (fun _ _ => True)
      (Dialogue.transcript _ _ (ExceptT.run
        (if (client.masking first).recognizes (.addRemote directory name url) outcome then _ else _))).2
      (Dialogue.transcript _ _ (ExceptT.run
        (if (client.masking second).recognizes (.addRemote directory name url) outcome then _ else _))).2
    rw [Bool.eq_not_of_ne hdiffer]
    cases (client.masking second).recognizes (.addRemote directory name url) outcome with
    | true => exact ((client.masking first).perform_ne_remoteExists directory _ host _ name).2
    | false => exact ((client.masking second).perform_ne_remoteExists directory _ host _ name).1

theorem actAlike_revParseHead_iff (directory : String) (host : Oracle Host.Answer)
    (past : List (Exchange Host.Answer)) :
    let run (redactor : Redactor) :=
      ((client.masking redactor).revParseHead directory).run.transcript (deaf host) past
    ActAlike (fun _ _ => True) (run first) (run second) ↔
      ∀ outcome, (results (run first).1).head? = some (.ok outcome) →
        (client.masking first).recognizes (.revParseHead directory) outcome =
          (client.masking second).recognizes (.revParseHead directory) outcome := by
  have hrecognizes (redactor : Redactor) (outcome : Host.Outcome) (h : outcome.exitCode = 0) :
      (client.masking redactor).recognizes (.revParseHead directory) outcome =
        isCommitId (Text.trim ((client.runner.masking redactor).outputOf {} outcome).stdout.toList) := by
    rw [recognizes, h, beq_self_eq_true, Bool.true_and]
    rfl
  have hkind (output output' : String) :
      (GitFailure.unexpectedOutput "git rev-parse HEAD" output).ctorIdx =
        (GitFailure.unexpectedOutput "git rev-parse HEAD" output').ctorIdx := rfl
  refine actAlike_iff (client.runner.alike_run first second _ (some directory) {})
    (fun outcome hrefused => ?_) (fun outcome hpassed hsame => ?_)
    (fun outcome hpassed hdiffer host past past' => ?_) host past
  · have hcode : (outcome.exitCode == 0) = false := beq_eq_false_iff_ne.2 fun h => hrefused (Or.inl h)
    rw [recognizes, recognizes, hcode, Bool.false_and, Bool.false_and]
  · have hcode : outcome.exitCode = 0 := hpassed.resolve_right Bool.false_ne_true
    rw [hrecognizes first outcome hcode, hrecognizes second outcome hcode] at hsame
    dsimp only
    rw [hsame]
    split
    · exact tryAlike_failGit (hkind _ _)
    · exact .tell_bind (tryAlike_pure trivial)
  · have hcode : outcome.exitCode = 0 := hpassed.resolve_right Bool.false_ne_true
    rw [hrecognizes first outcome hcode, hrecognizes second outcome hcode] at hdiffer
    dsimp only
    rw [Bool.eq_not_of_ne hdiffer]
    cases isCommitId (Text.trim ((client.runner.masking second).outputOf {} outcome).stdout.toList) with
    | true => exact not_endAlike_error_ok
    | false => exact not_endAlike_ok_error

/-! ## All operations -/

/-- What is found is the same; texts may differ. -/
def SameValue : (operation : Operation) → operation.Result → operation.Result → Prop
  | .refExists _ _, there, there' | .branchExists _ _, there, there' | .remoteExists _, there, there' =>
    there = there'
  | _, _, _ => True

/-- **Tokens change texts alone**, but for what is decided by a masked text. Take any operation and two sets
    of tokens to mask, and let the same host answer both runs, without hearing events and without seeing
    whether standard errors are captured. The runs start the same processes in the same directories, and
    both succeed, with the same finding if the operation is a look, or both fail with the same kind of
    failure – exactly if they recognize the same in the output of the first process. Only two operations
    recognize anything there: adding a remote, a listed name; telling the present commit, its id. -/
theorem tokens_change_texts_only_iff (client : Client) (first second : Redactor) (operation : Operation)
    (host : Oracle Host.Answer) (past : List (Exchange Host.Answer)) :
    let run (redactor : Redactor) :=
      ((client.masking redactor).carryOut operation).run.transcript (deaf host) past
    ActAlike (SameValue operation) (run first) (run second) ↔
      ∀ outcome, (results (run first).1).head? = some (.ok outcome) →
        (client.masking first).recognizes operation outcome =
          (client.masking second).recognizes operation outcome := by
  intro run
  have hsame {related : operation.Result → operation.Result → Prop}
      (h : TryAlike related ((client.masking first).carryOut operation)
        ((client.masking second).carryOut operation))
      (hrelated : ∀ value value', related value value' → SameValue operation value value') :
      ActAlike (SameValue operation) (run first) (run second) :=
    (h.imp hrelated).actAlike host past
  cases operation with
  | addRemote directory name url =>
      exact client.actAlike_addRemote_iff first second directory name url host past
  | revParseHead directory => exact client.actAlike_revParseHead_iff first second directory host past
  | stage directory paths all =>
      exact iff_of_true (hsame (client.tryAlike_stage first second directory paths all) fun _ _ _ => trivial)
        fun _ _ => rfl
  | clone url target =>
      exact iff_of_true (hsame (client.tryAlike_clone first second url target) fun _ _ _ => trivial)
        fun _ _ => rfl
  | checkout directory branch track =>
      exact iff_of_true (hsame (client.tryAlike_checkout first second directory branch track)
        fun _ _ _ => trivial) fun _ _ => rfl
  | diffedFiles directory since =>
      exact iff_of_true (hsame (client.tryAlike_diffedFiles first second directory since)
        fun _ _ _ => trivial) fun _ _ => rfl
  | refExists directory reference | branchExists directory reference =>
      exact iff_of_true (hsame (tryAlike_lift (client.alike_probe first second (some directory) _))
        fun _ _ => id) fun _ _ => rfl
  | remoteExists url =>
      exact iff_of_true (hsame (tryAlike_lift (client.alike_probe first second none _))
        fun _ _ => id) fun _ _ => rfl
  | commit directory _ _ _ | hardReset directory _ | push directory _ _ | fetchAll directory
  | checkoutNew directory _ _ =>
      exact iff_of_true (hsame (client.tryAlike_perform first second directory _) fun _ _ _ => trivial)
        fun _ _ => rfl

/-- A world in which every process prints the name of a remote. -/
def listingWorld : Host.World
  | .run _ => .ok { output := "upstream\n".toUTF8.toList }
  | question => nothingThere question

/-- A token that occurs in the name of a remote hides it: without the token, the remote is found to exist
    already; with it, git is told to add the remote again. -/
theorem masked_listing_hides_remote :
    let operation := Operation.addRemote "work" "upstream" "https://host/o/r.git"
    let run (redactor : Redactor) :=
      ((masking {} redactor).carryOut operation).run.transcript (deaf fun _ => listingWorld) []
    (run .empty).2 = .error (.git (.remoteExists "upstream")) ∧
      started (run .empty).1 = [(["remote"], some "work")] ∧
      (run (Redactor.empty.add "stream")).2 = .ok () ∧
      started (run (Redactor.empty.add "stream")).1 =
        [(["remote"], some "work"), (["remote", "add", "upstream", "https://host/o/r.git"], some "work")] ∧
      ¬ ActAlike (SameValue operation) (run .empty) (run (Redactor.empty.add "stream")) := by
  intro operation run
  have hexists : Result.failure? (run .empty).2 = some (.git (.remoteExists "upstream")) := by
    decide +kernel
  have hadded : (run (Redactor.empty.add "stream")).2.toOption = some () := by decide +kernel
  refine ⟨Result.failure?_eq_some.1 hexists, by decide +kernel, Result.toOption_eq_some.1 hadded,
    by decide +kernel, fun halike => ?_⟩
  have hends := halike.ends
  rw [Result.failure?_eq_some.1 hexists, Result.toOption_eq_some.1 hadded] at hends
  exact not_endAlike_error_ok hends

end Client

end PullRequestBot.Git
