import PullRequestBot.Git.Branching
import PullRequestBot.Proofs.Dialogue.Transcript

set_option autoImplicit false

/-! # Git stays local

Whatever the host answers, operations on a repository ask for events to be told of, for files, for the lock
and for processes, with arguments that can be told beforehand. They send no request of their own, and
branching pushes nothing (`Client.triesLocally_branch`); what else a process does over the network is git's
affair. -/

namespace PullRequestBot.Git

open Dialogue (Always)
open Host (ask tell)

variable {α β : Type} {permits : List String → Prop}

/-! ## Local questions -/

/-- The questions that operations on a repository ask, if git is permitted some arguments. -/
def IsLocal (permits : List String → Prop) : Host.Question → Prop
  | .run process => permits process.arguments
  | .tell _ | .fileKind _ | .hasEntries _ | .makeDirectories _ | .lockFile _ | .unlockFile _ => True
  | _ => False

/-- Whatever the host answers, only local questions are asked. -/
def StaysLocal (permits : List String → Prop) (job : Job α) : Prop :=
  job.Always (IsLocal permits) fun _ => True

theorem staysLocal_pure (value : α) : StaysLocal permits (pure value) :=
  trivial

theorem staysLocal_ask {q : Host.Question} (h : IsLocal permits q) : StaysLocal permits (ask q) :=
  Dialogue.always_question h

/-- A local question may be asked first. -/
theorem StaysLocal.ask_bind {q : Host.Question} {next : Host.Answer q → Job α} (h : IsLocal permits q)
    (hnext : ∀ answer, StaysLocal permits (next answer)) : StaysLocal permits (ask q >>= next) :=
  ⟨h, hnext⟩

theorem StaysLocal.bind {first : Job α} {next : α → Job β} (h : StaysLocal permits first)
    (hnext : ∀ value, StaysLocal permits (next value)) : StaysLocal permits (first >>= next) :=
  Always.bind h fun value _ => hnext value

/-- The same of an attempt. -/
def TriesLocally (permits : List String → Prop) (attempt : Attempt α) : Prop :=
  StaysLocal permits attempt.run

theorem triesLocally_pure (value : α) : TriesLocally permits (pure value) :=
  trivial

theorem triesLocally_failGit (reason : GitFailure) :
    TriesLocally permits (Attempt.failGit reason : Attempt α) :=
  trivial

theorem TriesLocally.bind {first : Attempt α} {next : α → Attempt β} (h : TriesLocally permits first)
    (hnext : ∀ value, TriesLocally permits (next value)) : TriesLocally permits (first >>= next) := by
  have hfirst : first.run.Always (IsLocal permits) (Dialogue.Settles (fun _ => True) fun _ => True) := by
    refine Always.imp h (fun _ hlocal => hlocal) fun result _ => ?_
    cases result with
    | ok _ | error _ => exact trivial
  exact hfirst.run_bind fun value _ => hnext value

theorem StaysLocal.lift_bind {job : Job α} {next : α → Attempt β} (h : StaysLocal permits job)
    (hnext : ∀ value, TriesLocally permits (next value)) : TriesLocally permits (liftM job >>= next) :=
  Always.run_lift_bind h hnext

theorem TriesLocally.ask_bind {q : Host.Question} {next : Host.Answer q → Attempt α} (h : IsLocal permits q)
    (hnext : ∀ answer, TriesLocally permits (next answer)) : TriesLocally permits (liftM (ask q) >>= next) :=
  (staysLocal_ask h).lift_bind hnext

theorem triesLocally_tell {severity : Log.Severity} {source : Log.Source} {message : String}
    {fields : List (String × Log.Value)} :
    TriesLocally permits (liftM (tell severity source message fields)) := by
  rw [← bind_pure (liftM (tell severity source message fields))]
  exact .ask_bind trivial fun _ => triesLocally_pure _

/-- A job that answers each question by one that stays local stays local. -/
theorem staysLocal_expandWith {Question : Type} {Answer : Question → Type}
    {answer : (q : Question) → Job (Answer q)} (h : ∀ q, StaysLocal permits (answer q))
    (dialogue : Dialogue Answer α) : StaysLocal permits (dialogue.expandWith answer) :=
  (Dialogue.always_true dialogue).expandWith fun q _ => h q

/-! ## Runs of git -/

namespace Lock

theorem triesLocally_need {path : String} {job : Job (Except SystemFailure Unit)}
    (h : StaysLocal permits job) : TriesLocally permits (need path job) := by
  refine h.lift_bind fun result => ?_
  cases result with
  | ok _ => exact triesLocally_pure _
  | error cause => exact triesLocally_failGit _

theorem triesLocally_acquire (lock : Lock) : TriesLocally permits lock.acquire := by
  cases lock with
  | none => exact triesLocally_pure ()
  | file path =>
      have habove : StaysLocal permits (ask (.makeDirectories ((Path.parent path).getD ""))) :=
        staysLocal_ask trivial
      have hlock : StaysLocal permits (ask (.lockFile path)) := staysLocal_ask trivial
      unfold acquire
      dsimp only
      split
      · exact (triesLocally_need habove).bind fun _ => triesLocally_need hlock
      · exact triesLocally_need hlock

theorem staysLocal_release (lock : Lock) : StaysLocal permits lock.release := by
  cases lock with
  | none => exact trivial
  | file path => exact staysLocal_ask trivial

end Lock

namespace Runner

theorem staysLocal_tellError (severity : Log.Severity) (message : String) (stderr : Option String) :
    StaysLocal permits (tellError severity message stderr) := by
  cases stderr with
  | none => exact trivial
  | some text =>
      rw [tellError]
      split
      · exact staysLocal_pure ()
      · exact staysLocal_ask trivial

theorem triesLocally_conclude (runner : Runner) (arguments : List String) (options : RunOptions)
    (outcome : Host.Outcome) : TriesLocally permits (runner.conclude arguments options outcome) := by
  unfold conclude
  dsimp only
  split
  · exact (staysLocal_tellError _ _ _).lift_bind fun _ =>
      .ask_bind trivial fun _ => triesLocally_pure _
  · exact .ask_bind trivial fun _ =>
      (staysLocal_tellError _ _ _).lift_bind fun _ => triesLocally_failGit _

theorem triesLocally_startFailure (runner : Runner) (arguments : List String)
    (directory : Option String) (cause : SystemFailure) :
    TriesLocally permits (runner.startFailure arguments directory cause : Attempt α) := by
  have hends : ∀ there : Bool, TriesLocally (α := α) permits
      (if cause.isNotFound && there then Attempt.failGit (.executableNotFound runner.executable)
        else Attempt.failGit (.spawn (runner.commandLine arguments) cause)) := by
    intro there
    split
    · exact triesLocally_failGit _
    · exact triesLocally_failGit _
  cases directory with
  | none => exact hends true
  | some path => exact .ask_bind trivial fun kind => hends kind.isSome

theorem triesLocally_run (runner : Runner) {arguments : List String} (h : permits arguments)
    (directory : Option String) (options : RunOptions) :
    TriesLocally permits (runner.run arguments directory options) := by
  have hdirectory : StaysLocal permits (runner.tellDirectory directory) := by
    cases directory with
    | none => exact trivial
    | some path => exact staysLocal_ask trivial
  refine hdirectory.lift_bind fun _ => .ask_bind trivial fun _ => ?_
  refine runner.lock.triesLocally_acquire.bind fun _ => .ask_bind h fun answer => ?_
  refine runner.lock.staysLocal_release.lift_bind fun _ => ?_
  cases answer with
  | ok outcome => exact runner.triesLocally_conclude arguments options outcome
  | error cause => exact runner.triesLocally_startFailure arguments directory cause

end Runner

/-! ## Operations -/

/-- The arguments of all commands but a push are permitted. -/
def PermitsButPush (permits : List String → Prop) : Prop :=
  ∀ command : Command, (∀ remote branch, command ≠ .push remote branch) → permits command.arguments

namespace Client

variable (client : Client)

theorem triesLocally_perform (directory : String) {command : Command} (h : permits command.arguments) :
    TriesLocally permits (client.perform directory command) :=
  (client.runner.triesLocally_run h _ _).bind fun _ => triesLocally_pure ()

theorem staysLocal_probe (directory : Option String) {command : Command} (h : permits command.arguments) :
    StaysLocal permits (client.probe directory command) := by
  have hrun := client.runner.triesLocally_run h directory { allowsFailure := true, capturesError := true }
  unfold probe
  cases directory with
  | none =>
      refine StaysLocal.bind hrun fun result => ?_
      cases result with
      | ok _ | error _ => exact trivial
  | some path =>
      refine .ask_bind trivial fun kind => ?_
      dsimp only
      split
      · exact staysLocal_pure false
      · refine StaysLocal.bind hrun fun result => ?_
        cases result with
        | ok _ | error _ => exact trivial

theorem triesLocally_failed (command : Command) (exitCode : Int) :
    TriesLocally permits (client.failed command exitCode : Attempt α) :=
  .ask_bind trivial fun _ => triesLocally_failGit _

theorem staysLocal_isTaken (target : String) : StaysLocal permits (isTaken target) := by
  refine .ask_bind trivial fun kind => ?_
  rcases kind with _ | (_ | _)
  · exact staysLocal_pure false
  · exact staysLocal_ask trivial
  · exact staysLocal_pure true

theorem triesLocally_clone (h : PermitsButPush permits) (url target : String) :
    TriesLocally permits (client.clone url target) := by
  have hrest : TriesLocally permits (do
      let output ← client.runner.run (Command.clone url target).arguments none { allowsFailure := true }
      if !output.isSuccess then
        let shown := client.runner.redact url
        tell .warn .client "clone failed"
          [("url", .plain shown), ("exit_code", .number output.exitCode)]
        Attempt.failGit (.cloneFailed shown)) := by
    refine (client.runner.triesLocally_run (h (.clone url target) nofun) _ _).bind fun output => ?_
    split
    · exact .ask_bind trivial fun _ => triesLocally_failGit _
    · exact triesLocally_pure ()
  refine (staysLocal_isTaken target).lift_bind fun taken => ?_
  cases taken with
  | true => exact (triesLocally_failGit _).bind fun _ => hrest
  | false => exact hrest

theorem triesLocally_addRemote (h : PermitsButPush permits) (directory name url : String) :
    TriesLocally permits (client.addRemote directory name url) := by
  have hadd := client.triesLocally_perform directory (h (.addRemote name url) nofun)
  refine (client.runner.triesLocally_run (h .listRemotes nofun) _ _).bind fun remotes => ?_
  dsimp only
  split
  · exact (triesLocally_failGit _).bind fun _ => hadd
  · exact hadd

theorem triesLocally_checkout (h : PermitsButPush permits) (directory branch : String) (track : Bool) :
    TriesLocally permits (client.checkout directory branch track) := by
  refine (client.runner.triesLocally_run (h (.checkout branch track) nofun) _ _).bind fun output => ?_
  dsimp only
  split
  · refine (client.staysLocal_probe _ (h (.showRef _) nofun)).lift_bind fun there => ?_
    split
    · exact (triesLocally_failGit _).bind fun _ => client.triesLocally_failed _ _
    · exact client.triesLocally_failed _ _
  · exact triesLocally_pure ()

/-- What branching asks of a repository is answered locally, and nothing is pushed. -/
theorem staysLocal_answer (h : PermitsButPush permits) (question : Repository.Question) :
    StaysLocal permits (client.answer question) := by
  cases question with
  | tell event => exact staysLocal_ask trivial
  | clone url directory => exact client.triesLocally_clone h url directory
  | hardReset directory target => exact client.triesLocally_perform directory (h (.hardReset _) nofun)
  | addRemote directory name url => exact client.triesLocally_addRemote h directory name url
  | fetchAll directory => exact client.triesLocally_perform directory (h .fetchAll nofun)
  | refExists directory reference =>
      exact client.staysLocal_probe (some directory) (h (.showRef reference) nofun)
  | checkout directory branch track => exact client.triesLocally_checkout h directory branch track
  | checkoutNew directory branch start =>
      exact client.triesLocally_perform directory (h (.checkoutNew branch start) nofun)

/-- Branching stays local, and pushes nothing. -/
theorem triesLocally_branch (h : PermitsButPush permits) (inputs : Branching) :
    TriesLocally permits (client.branch inputs) :=
  staysLocal_expandWith (client.staysLocal_answer h) _

/-- The look at the present commit is local. -/
theorem triesLocally_revParseHead (h : PermitsButPush permits) (directory : String) :
    TriesLocally permits (client.revParseHead directory) := by
  have hrun : TriesLocally permits (client.run directory .revParseHead) :=
    client.runner.triesLocally_run (h .revParseHead nofun) _ _
  refine hrun.bind fun output => ?_
  dsimp only
  split
  · exact (triesLocally_failGit _).bind fun _ => .ask_bind trivial fun _ => triesLocally_pure _
  · exact .ask_bind trivial fun _ => triesLocally_pure _

end Client

end PullRequestBot.Git
