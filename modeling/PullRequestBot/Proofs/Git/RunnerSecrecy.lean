import PullRequestBot.Git.Runner
import PullRequestBot.Proofs.Dialogue.Transcript
import PullRequestBot.Proofs.Host.World
import PullRequestBot.Proofs.Redactor.Secrecy

set_option autoImplicit false

/-! # A runner gives no token away

Whatever the host answers, no registered token occurs in what a runner tells, returns or fails with
(`run_gives_no_token_away`). `Guards` says it of the questions that a run asks and `GuardsEnd` of what
it ends with; each part of a run keeps them, and so does their sequence. -/

namespace PullRequestBot.Log

/-- The text of a value, if it is one. -/
def Value.text? : Value → Option String
  | .plain text | .quoted text => some text
  | .number _ => none

/-- The texts in the fields of an event. -/
def Event.texts (event : Event) : List String :=
  event.fields.filterMap fun field => field.2.text?

end PullRequestBot.Log

namespace PullRequestBot.Git.Runner

open Dialogue (Always Exchange Oracle)
open Host (ask tell)

variable {runner : Runner}

/-! ## What gives no token away -/

/-- The messages that are the same in all runs. -/
def fixedMessages : List String :=
  ["cd", "exec", "completed", "git stderr", "git error output"]

/-- A question gives no token away: an event shows none, and what a process writes to its standard
    error is captured as soon as there is one. Besides, only the lock and the directory are asked
    for. -/
def Guards (runner : Runner) : Host.Question → Prop
  | .tell event =>
    (event.message ∈ fixedMessages ∨ runner.redactor.Hides event.message) ∧
      ∀ text ∈ event.texts, runner.redactor.Hides text
  | .run process => runner.redactor.isActive = true → process.capturesError = true
  | .fileKind _ | .makeDirectories _ | .lockFile _ | .unlockFile _ => True
  | _ => False

/-- An output shows no token, and holds the standard error as soon as there is one. -/
structure GuardsOutput (runner : Runner) (output : Output) : Prop where
  stdout : runner.redactor.Hides output.stdout
  stderr : ∀ text, output.stderr = some text → runner.redactor.Hides text
  captured : runner.redactor.isActive = true → output.stderr.isSome = true

/-- The end of a run gives no token away. A run fails in four ways only, and two of them name a file
    and nothing that the run was given. -/
def GuardsEnd (runner : Runner) : Except Failure Output → Prop
  | .ok output => runner.GuardsOutput output
  | .error (.git (.commandFailed text _)) => runner.redactor.Hides text
  | .error (.git (.spawn command _)) => runner.redactor.Hides command
  | .error (.git (.executableNotFound name)) => name = runner.executable
  | .error (.git (.lock path _)) => runner.lock.path? = some path
  | .error _ => False

/-! ## The parts of a run -/

theorem hides_commandLine (h : runner.redactor.Maskable) (arguments : List String) :
    runner.redactor.Hides (runner.commandLine arguments) :=
  Redactor.hides_redactCommand h executableName arguments

theorem hides_failureMessage (h : runner.redactor.Maskable) (arguments : List String) :
    runner.redactor.Hides (runner.failureMessage arguments) :=
  Redactor.hides_redact h _

theorem guardsOutput_outputOf (h : runner.redactor.Maskable) (options : RunOptions)
    (outcome : Host.Outcome) : runner.GuardsOutput (runner.outputOf options outcome) where
  stdout := Redactor.hides_redact h _
  stderr := by
    intro text htext
    rw [outputOf] at htext
    split at htext
    · exact Option.some.inj htext ▸ Redactor.hides_redact h _
    · exact absurd htext nofun
  captured := by
    intro hactive
    rw [outputOf, capturesError, hactive, Bool.true_or, if_pos rfl]
    rfl

theorem guards_tell_text {severity : Log.Severity} {message name text : String}
    (hmessage : message ∈ fixedMessages) (htext : runner.redactor.Hides text) :
    runner.Guards (.tell ⟨severity, .runner, message, [(name, .plain text)]⟩) :=
  ⟨Or.inl hmessage, List.forall_mem_singleton.2 htext⟩

theorem guards_tell_number {severity : Log.Severity} {message name : String} {n : Int}
    (hmessage : message ∈ fixedMessages ∨ runner.redactor.Hides message) :
    runner.Guards (.tell ⟨severity, .runner, message, [(name, .number n)]⟩) :=
  ⟨hmessage, fun _ htext => absurd htext List.not_mem_nil⟩

/-- Telling of the standard error gives no token away if there is none in it. -/
theorem tellError_guards {severity : Log.Severity} {message : String} {stderr : Option String}
    (hmessage : message ∈ fixedMessages)
    (hstderr : ∀ text, stderr = some text → runner.redactor.Hides text) :
    (tellError severity message stderr).Always runner.Guards fun _ => True := by
  cases stderr with
  | none => exact trivial
  | some text =>
      rw [tellError]
      split
      · exact trivial
      · exact Dialogue.always_question (guards_tell_text hmessage (hstderr text rfl).stripEnd)

/-- What a finished process means gives no token away, be it a failure or not. -/
theorem conclude_guards (h : runner.redactor.Maskable) (arguments : List String)
    (options : RunOptions) (outcome : Host.Outcome) :
    (runner.conclude arguments options outcome).run.Always runner.Guards runner.GuardsEnd := by
  have houtput := guardsOutput_outputOf h options outcome
  have hmessage := hides_failureMessage h arguments
  unfold conclude
  simp only
  split
  · refine .run_lift_bind (tellError_guards (by decide) houtput.stderr) fun _ => ?_
    refine .run_lift_bind (Dialogue.always_question ?_) fun _ => houtput
    exact guards_tell_number (Or.inl (by decide))
  · refine .run_lift_bind (Dialogue.always_question ?_) fun _ => ?_
    · exact guards_tell_number (Or.inr hmessage)
    exact .run_lift_bind (tellError_guards (by decide) houtput.stderr) fun _ => hmessage

/-- The failure to start git gives no token away. -/
theorem startFailure_guards (h : runner.redactor.Maskable) (arguments : List String)
    (directory : Option String) (cause : SystemFailure) :
    (runner.startFailure (α := Output) arguments directory cause).run.Always runner.Guards
      runner.GuardsEnd := by
  have hend (directoryExists : Bool) :
      (if cause.isNotFound && directoryExists then
          Attempt.failGit (.executableNotFound runner.executable)
        else Attempt.failGit (.spawn (runner.commandLine arguments) cause) :
          Attempt Output).run.Always runner.Guards runner.GuardsEnd := by
    split
    · exact rfl
    · exact hides_commandLine h arguments
  cases directory with
  | none => exact hend true
  | some path => exact ⟨trivial, fun kind => hend kind.isSome⟩

/-- Waiting for the lock gives no token away: a failure names the lock file. -/
theorem acquire_guards (runner : Runner) :
    runner.lock.acquire.run.Always runner.Guards
      (Dialogue.Settles (fun _ => True) fun failure => runner.GuardsEnd (.error failure)) := by
  cases hlock : runner.lock with
  | none => exact trivial
  | file path =>
      have hneed {job : Job (Except SystemFailure Unit)}
          (hjob : job.Always runner.Guards fun _ => True) :
          (Lock.need path job).run.Always runner.Guards
            (Dialogue.Settles (fun _ => True) fun failure => runner.GuardsEnd (.error failure)) := by
        refine .run_lift_bind hjob fun answer => ?_
        cases answer with
        | ok _ => exact trivial
        | error cause =>
            show runner.lock.path? = some path
            rw [hlock]
            rfl
      have hmake := @hneed (ask (.makeDirectories ((Path.parent path).getD "")))
        (Dialogue.always_question trivial)
      have hlockFile := @hneed (ask (.lockFile path)) (Dialogue.always_question trivial)
      rw [Lock.acquire]
      simp only
      split
      · exact .run_bind hmake fun _ _ => hlockFile
      · exact hlockFile

theorem tellDirectory_guards (h : runner.redactor.Maskable) (directory : Option String) :
    (runner.tellDirectory directory).Always runner.Guards fun _ => True := by
  cases directory with
  | none => exact trivial
  | some path =>
      refine Dialogue.always_question (guards_tell_text (by decide) ?_)
      exact Redactor.hides_redact h path

theorem run_guards (h : runner.redactor.Maskable) (arguments : List String)
    (directory : Option String) (options : RunOptions) :
    (runner.run arguments directory options).run.Always runner.Guards runner.GuardsEnd := by
  unfold run
  refine .run_lift_bind (tellDirectory_guards h directory) fun _ => ?_
  refine .run_lift_bind (Dialogue.always_question ?_) fun _ => ?_
  · exact guards_tell_text (by decide) (hides_commandLine h arguments)
  refine .run_bind runner.acquire_guards fun _ _ => ?_
  refine .run_lift_bind (Dialogue.always_question ?_) fun answer => ?_
  · intro hactive
    show runner.capturesError options = true
    rw [capturesError, hactive, Bool.true_or]
  have hrelease : runner.lock.release.Always runner.Guards fun _ => True := by
    cases runner.lock with
    | none => exact trivial
    | file path => exact Dialogue.always_question trivial
  refine .run_lift_bind hrelease fun _ => ?_
  cases answer with
  | ok outcome => exact conclude_guards h arguments options outcome
  | error cause => exact startFailure_guards h arguments directory cause

/-! ## Runs -/

/-- **A run gives no token away.** Whatever the host answers, no registered token occurs in the fields
    of an event that the run tells, in a message that depends on the run, in the captured outputs, or
    in the text of a failure; and as soon as there is a token, standard error is captured. -/
theorem run_gives_no_token_away (runner : Runner)
    (hmask : ∀ token ∈ runner.redactor.tokens, '*' ∉ token.toList) (arguments : List String)
    (directory : Option String) (options : RunOptions) (host : Oracle Host.Answer)
    (past : List (Exchange Host.Answer)) :
    let said := (runner.run arguments directory options).run.transcript host past
    (∀ exchange ∈ said.1, runner.Guards exchange.question) ∧ runner.GuardsEnd said.2 :=
  (run_guards hmask arguments directory options).leads (Dialogue.leads_transcript host past _)

/-- A host on which every process ends alike and nothing else is to be had. -/
def processHost (outcome : Host.Outcome) : Oracle Host.Answer
  | _, .run _ => .ok outcome
  | _, question => nothingThere question

/-- The case of a push that fails, with a token in the address and one among the words of the
    message. -/
theorem failed_push_gives_no_token_away :
    let runner : Runner := { redactor := (Redactor.empty.add "s3cr3t").add "failed" }
    let said := (runner.run ["push", "https://s3cr3t@example.org", "main"] none).run.transcript
      (processHost { ending := .exited 1, errorOutput := "bad s3cr3t".toUTF8.toList }) []
    (∀ token ∈ runner.redactor.tokens, '*' ∉ token.toList) ∧
      (∀ exchange ∈ said.1, runner.Guards exchange.question) ∧ runner.GuardsEnd said.2 := by
  intro runner said
  have hmask : ∀ token ∈ runner.redactor.tokens, '*' ∉ token.toList := by decide
  exact ⟨hmask, run_gives_no_token_away runner hmask _ none {} _ []⟩

/-- Both are masked. -/
example : ({ redactor := (Redactor.empty.add "s3cr3t").add "failed" } : Runner).failureMessage
    ["push", "https://s3cr3t@host"] = "Command 'git push https://******@host' ******." := by
  rw [failureMessage, commandLine, Redactor.redactCommand, redact, Redactor.redact_eq,
    Redactor.redact_eq]
  decide +kernel

end PullRequestBot.Git.Runner
