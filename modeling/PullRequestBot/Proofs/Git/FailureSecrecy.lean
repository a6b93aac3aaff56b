import PullRequestBot.Proofs.Git.Operation
import PullRequestBot.Proofs.Git.RunnerSecrecy

set_option autoImplicit false

/-! # The failures of repository operations give no token away

Whatever a repository operation is told and whatever the host answers, no registered token occurs in the
texts of a git failure that it ends with. There is one exception: a clone whose target is taken names the
target as it was given (`failure_gives_no_token_away_iff`).

Most texts are masked where the failure is made. Two are not, and need a reason: the name of a remote that
exists already stands in the masked listing of the remotes, and what is shown of an answer that is no
commit id is a part of the masked answer. -/

namespace PullRequestBot.Git.Client

open Dialogue (Always Exchange Oracle Settles)
open Host (ask tell)

variable {α β : Type} {client : Client}

/-! ## What gives no token away -/

/-- No token occurs in the texts of a git failure. Left out are the path of the executable and that of
    the lock file, which no operation is told, and two texts that are always the same. -/
def GuardsFailure (client : Client) : GitFailure → Prop
  | .commandFailed text _ => client.runner.redactor.Hides text
  | .invalidArgument reason => reason = "either paths or all must be set"
  | .targetNotEmpty path => client.runner.redactor.Hides path
  | .cloneFailed url => client.runner.redactor.Hides url
  | .remoteExists name => client.runner.redactor.Hides name
  | .branchNotFound branch => client.runner.redactor.Hides branch
  | .trackingRefMissing reference => client.runner.redactor.Hides reference
  | .unexpectedOutput command output =>
    command = "git rev-parse HEAD" ∧ client.runner.redactor.Hides output
  | .executableNotFound name => name = client.runner.executable
  | .spawn command _ => client.runner.redactor.Hides command
  | .lock path _ => client.runner.lock.path? = some path

/-- A failure is one of git, and gives no token away. -/
def Guarded (client : Client) (failure : Failure) : Prop :=
  ∃ reason, failure = .git reason ∧ client.GuardsFailure reason

/-- Whatever the host answers, an attempt succeeds with a value that satisfies an assertion, or fails
    without giving a token away. -/
def FailsGuarded (client : Client) (succeeded : α → Prop) (attempt : Attempt α) : Prop :=
  attempt.run.Always (fun _ => True) (Settles succeeded client.Guarded)

theorem failsGuarded_pure (value : α) : client.FailsGuarded (fun _ => True) (pure value : Attempt α) :=
  trivial

theorem failsGuarded_failGit {reason : GitFailure} (succeeded : α → Prop)
    (h : client.GuardsFailure reason) : client.FailsGuarded succeeded (Attempt.failGit reason) :=
  ⟨reason, rfl, h⟩

theorem FailsGuarded.bind {middle : α → Prop} {succeeded : β → Prop} {first : Attempt α}
    {next : α → Attempt β} (h : client.FailsGuarded middle first)
    (hnext : ∀ value, middle value → client.FailsGuarded succeeded (next value)) :
    client.FailsGuarded succeeded (first >>= next) := by
  refine Always.run_bind (h.imp (fun _ _ => trivial) fun result hresult => ?_) hnext
  cases result with
  | ok value => exact hresult
  | error failure => exact hresult

/-- A job that cannot fail may come first. -/
theorem FailsGuarded.job_bind {succeeded : β → Prop} (job : Job α) {next : α → Attempt β}
    (hnext : ∀ value, client.FailsGuarded succeeded (next value)) :
    client.FailsGuarded succeeded (liftM job >>= next) :=
  Always.run_lift_bind (Dialogue.always_true job) hnext

theorem failsGuarded_lift (job : Job α) : client.FailsGuarded (fun _ => True) (ExceptT.lift job) :=
  (Dialogue.always_true job).bind fun _ _ => trivial

/-! ## Commands -/

/-- The runner fails without giving a token away, and so does its client. -/
theorem guarded_of_guardsEnd {failure : Failure} (h : client.runner.GuardsEnd (.error failure)) :
    client.Guarded failure := by
  cases failure with
  | git reason =>
      refine ⟨reason, rfl, ?_⟩
      cases reason with
      | commandFailed _ _ | spawn _ _ | executableNotFound _ | lock _ _ => exact h
      | _ => exact h.elim
  | _ => exact h.elim

theorem failsGuarded_run (h : client.runner.redactor.Maskable) (arguments : List String)
    (directory : Option String) (options : RunOptions) :
    client.FailsGuarded client.runner.GuardsOutput (client.runner.run arguments directory options) := by
  refine (Runner.run_guards h arguments directory options).imp (fun _ _ => trivial) fun result hend => ?_
  cases result with
  | ok output => exact hend
  | error failure => exact guarded_of_guardsEnd hend

theorem failsGuarded_perform (h : client.runner.redactor.Maskable) (directory : String)
    (command : Command) : client.FailsGuarded (fun _ => True) (client.perform directory command) :=
  (failsGuarded_run h command.arguments (some directory) {}).bind fun _ _ => failsGuarded_pure ()

theorem failsGuarded_failed (h : client.runner.redactor.Maskable) (command : Command) (exitCode : Int) :
    client.FailsGuarded (fun _ => True) (client.failed command exitCode : Attempt α) :=
  .job_bind _ fun _ => failsGuarded_failGit _ (Runner.hides_failureMessage h command.arguments)

/-! ## Operations with failures of their own -/

theorem failsGuarded_stage (h : client.runner.redactor.Maskable) (directory : String)
    (paths : List String) (all : Bool) :
    client.FailsGuarded (fun _ => True) (client.stage directory paths all) := by
  unfold stage
  split
  · exact failsGuarded_failGit _ rfl
  · exact failsGuarded_perform h directory _

/-- A name that is listed in a text without tokens holds no token. -/
theorem hides_of_listsRemote {output name : String} (h : client.runner.redactor.Hides output)
    (hlists : listsRemote output name = true) : client.runner.redactor.Hides name := by
  obtain ⟨line, hline, hname⟩ := List.any_eq_true.1 hlists
  refine h.of_infix ?_
  rw [← beq_iff_eq.1 hname]
  exact (Text.trim_infix line).trans (Text.infix_of_mem_lines hline)

theorem failsGuarded_addRemote (h : client.runner.redactor.Maskable) (directory name url : String) :
    client.FailsGuarded (fun _ => True) (client.addRemote directory name url) := by
  refine (failsGuarded_run h Command.listRemotes.arguments (some directory) _).bind fun remotes hremotes => ?_
  dsimp only
  split
  · next hlisted =>
    rw [Bool.and_eq_true] at hlisted
    have hname : client.GuardsFailure (.remoteExists name) :=
      hides_of_listsRemote hremotes.stdout hlisted.2
    exact (failsGuarded_failGit (fun _ => True) hname).bind fun _ _ => failsGuarded_perform h directory _
  · exact failsGuarded_perform h directory _

/-- What a refused checkout fails with is masked, whether the reference is missing or not. -/
theorem failsGuarded_checkout (h : client.runner.redactor.Maskable) (directory branch : String)
    (track : Bool) : client.FailsGuarded (fun _ => True) (client.checkout directory branch track) := by
  have hmissing : client.GuardsFailure
      (if track then .trackingRefMissing (client.runner.redact (trackingRef branch))
        else .branchNotFound (client.runner.redact branch)) := by
    cases track with
    | true => exact Redactor.hides_redact h _
    | false => exact Redactor.hides_redact h branch
  refine (failsGuarded_run h _ (some directory) _).bind fun output _ => ?_
  dsimp only
  split
  · refine .job_bind _ fun there => ?_
    split
    · refine (failsGuarded_failGit (fun _ => True) ?_).bind fun _ _ => failsGuarded_failed h _ _
      cases track with
      | true | false => exact hmissing
    · exact failsGuarded_failed h _ _
  · exact failsGuarded_pure ()

theorem failsGuarded_diffedFiles (h : client.runner.redactor.Maskable) (directory since : String) :
    client.FailsGuarded (fun _ => True) (client.diffedFiles directory since) := by
  have hlisting : client.FailsGuarded (fun _ => True) (client.listChanges directory since) :=
    (failsGuarded_run h _ (some directory) {}).bind fun _ _ => failsGuarded_pure _
  exact hlisting.bind fun _ _ => failsGuarded_pure _

theorem failsGuarded_revParseHead (h : client.runner.redactor.Maskable) (directory : String) :
    client.FailsGuarded (fun _ => True) (client.revParseHead directory) := by
  refine (failsGuarded_run h _ (some directory) {}).bind fun output houtput => ?_
  have hshown : client.runner.redactor.Hides (String.ofList (Text.trim output.stdout.toList)) := by
    refine houtput.stdout.of_infix ?_
    rw [String.toList_ofList]
    exact Text.trim_infix output.stdout.toList
  have hid : client.GuardsFailure (.unexpectedOutput "git rev-parse HEAD"
      (String.ofList (Text.trim output.stdout.toList))) := ⟨rfl, hshown⟩
  dsimp only
  split
  · refine (failsGuarded_failGit (fun _ => True) hid).bind fun _ _ => ?_
    exact .job_bind _ fun _ => failsGuarded_pure _
  · exact .job_bind _ fun _ => failsGuarded_pure _

/-- Failures of another kind may be allowed besides. -/
theorem FailsGuarded.or {attempt : Attempt α} (exempt : Failure → Prop)
    (h : client.FailsGuarded (fun _ => True) attempt) :
    attempt.run.Always (fun _ => True)
      (Settles (fun _ => True) fun failure => exempt failure ∨ client.Guarded failure) := by
  refine Always.imp h (fun _ _ => trivial) fun result hresult => ?_
  cases result with
  | ok _ => exact trivial
  | error failure => exact Or.inr hresult

/-- A clone names its target as it is, if that is taken; any other failure gives no token away. -/
theorem clone_fails (h : client.runner.redactor.Maskable) (url target : String) :
    (client.clone url target).run.Always (fun _ => True)
      (Settles (fun _ => True) fun failure =>
        failure = .git (.targetNotEmpty target) ∨ client.Guarded failure) := by
  have hrest : client.FailsGuarded (fun _ => True) (do
      let output ← client.runner.run (Command.clone url target).arguments none { allowsFailure := true }
      if !output.isSuccess then
        let shown := client.runner.redact url
        tell .warn .client "clone failed"
          [("url", .plain shown), ("exit_code", .number output.exitCode)]
        Attempt.failGit (.cloneFailed shown)) := by
    refine (failsGuarded_run h _ none _).bind fun output _ => ?_
    split
    · exact .job_bind _ fun _ => failsGuarded_failGit _ (Redactor.hides_redact h url)
    · exact failsGuarded_pure ()
  refine Always.run_lift_bind (Dialogue.always_true _) fun taken => ?_
  cases taken with
  | true => exact Or.inl rfl
  | false => exact hrest.or _

/-! ## All operations -/

/-- A clone may name its target as it is. Nothing else gives a token away. -/
def Exempt (operation : Operation) (failure : Failure) : Prop :=
  ∃ url target, operation = .clone url target ∧ failure = .git (.targetNotEmpty target)

theorem carryOut_fails (h : client.runner.redactor.Maskable) (operation : Operation) :
    (client.carryOut operation).run.Always (fun _ => True)
      (Settles (fun _ => True) fun failure => Exempt operation failure ∨ client.Guarded failure) := by
  cases operation with
  | stage directory paths all => exact (failsGuarded_stage h directory paths all).or _
  | clone url target =>
      refine (clone_fails h url target).imp (fun _ _ => trivial) fun result hresult => ?_
      cases result with
      | ok _ => exact trivial
      | error failure => exact hresult.imp_left fun htaken => ⟨url, target, rfl, htaken⟩
  | addRemote directory name url => exact (failsGuarded_addRemote h directory name url).or _
  | checkout directory branch track => exact (failsGuarded_checkout h directory branch track).or _
  | diffedFiles directory since => exact (failsGuarded_diffedFiles h directory since).or _
  | revParseHead directory => exact (failsGuarded_revParseHead h directory).or _
  | refExists _ _ | branchExists _ _ | remoteExists _ => exact (failsGuarded_lift _).or _
  | commit directory _ _ _ | hardReset directory _ | push directory _ _ | fetchAll directory
  | checkoutNew directory _ _ => exact (failsGuarded_perform h directory _).or _

/-- **The failures of repository operations give no token away**, as long as no token holds the character
    that masks: whatever a client is asked to do and whatever the host answers, no registered token occurs
    in the texts of a git failure, unless a clone fails because its target is taken and a token occurs in
    the path of that target. -/
theorem failure_gives_no_token_away_iff (client : Client)
    (hmask : ∀ token ∈ client.runner.redactor.tokens, '*' ∉ token.toList) (operation : Operation)
    (host : Oracle Host.Answer) (past : List (Exchange Host.Answer)) (reason : GitFailure)
    (hfails : ((client.carryOut operation).run.transcript host past).2 = .error (.git reason)) :
    client.GuardsFailure reason ↔
      ∀ url target, operation = .clone url target → reason = .targetNotEmpty target →
        client.runner.redactor.Hides target := by
  have hleads := Dialogue.leads_transcript host past (client.carryOut operation).run
  have hend := ((carryOut_fails hmask operation).leads hleads).2
  rw [hfails] at hend
  rcases hend with ⟨url, target, rfl, hreason⟩ | ⟨reason', hreason, hguards⟩
  · obtain rfl := Failure.git.inj hreason
    constructor
    · intro hhides url' target' _ htarget
      exact GitFailure.targetNotEmpty.inj htarget ▸ hhides
    · intro hhides
      exact hhides url target rfl rfl
  · obtain rfl := Failure.git.inj hreason
    refine iff_of_true hguards ?_
    rintro url target - rfl
    exact hguards

/-- The case of a push to an address with a token, where git cannot be started. -/
theorem unstarted_push_gives_no_token_away :
    let client : Client := { runner := { redactor := Redactor.empty.add "s3cr3t" } }
    let arguments := ["push", "https://s3cr3t@example.org", "main"]
    let host : Oracle Host.Answer := fun
      | _, .run _ => .error .permissionDenied
      | past, question => Runner.processHost {} past question
    let reason := GitFailure.spawn (client.runner.commandLine arguments) .permissionDenied
    (∀ token ∈ client.runner.redactor.tokens, '*' ∉ token.toList) ∧
      ((client.carryOut (.push "work" "https://s3cr3t@example.org" "main")).run.transcript host []).2 =
        .error (.git reason) ∧
      client.GuardsFailure reason := by
  intro client arguments host reason
  have hmask : ∀ token ∈ client.runner.redactor.tokens, '*' ∉ token.toList := by decide
  have hfails : ((client.carryOut (.push "work" "https://s3cr3t@example.org" "main")).run.transcript
      host []).2 = .error (.git reason) := rfl
  exact ⟨hmask, hfails, (failure_gives_no_token_away_iff client hmask _ host [] reason hfails).2 nofun⟩

/-- A clone into a directory that is not empty names it as it is, with the token in its path. -/
theorem taken_target_gives_token_away :
    let client : Client := { runner := { redactor := Redactor.empty.add "s3cr3t" } }
    let host : Oracle Host.Answer := fun
      | _, .fileKind _ => some .directory
      | _, .hasEntries _ => true
      | past, question => Runner.processHost {} past question
    let reason := GitFailure.targetNotEmpty "s3cr3t"
    (∀ token ∈ client.runner.redactor.tokens, '*' ∉ token.toList) ∧
      ((client.carryOut (.clone "https://host/o/r.git" "s3cr3t")).run.transcript host []).2 =
        .error (.git reason) ∧
      ¬ client.GuardsFailure reason := by
  intro client host reason
  refine ⟨by decide, rfl, fun hhides => ?_⟩
  exact hhides "s3cr3t" (by decide) List.infix_rfl

end PullRequestBot.Git.Client
