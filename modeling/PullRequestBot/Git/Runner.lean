import PullRequestBot.Git.Lock
import PullRequestBot.Redactor
import PullRequestBot.Text.Blank
import PullRequestBot.Text.Utf8

set_option autoImplicit false

/-! # Running git

A runner starts git, waits for it, and masks the registered tokens in everything that it returns,
tells or fails with. What a finished process means is said by `conclude`, which asks nothing of the
host but to tell of events. -/

namespace PullRequestBot.Git

open Host (ask tell)

/-- The name of git in messages and on the search path. -/
def executableName : String := "git"

/-- Starts git with masked outputs, one command at a time under its lock. -/
structure Runner where
  executable : String := executableName
  redactor : Redactor := .empty
  lock : Lock := .none

/-- What a caller may ask of one command. -/
structure RunOptions where
  /-- A status other than zero is no failure. -/
  allowsFailure : Bool := false
  /-- Standard error is captured although nothing has to be masked. -/
  capturesError : Bool := false
deriving DecidableEq, Repr

/-- What a command left behind, masked. -/
structure Output where
  exitCode : Int
  stdout : String
  /-- Nothing if standard error was not captured. -/
  stderr : Option String
deriving DecidableEq, Repr

/-- Whether the command ended with status zero. -/
def Output.isSuccess (output : Output) : Bool :=
  output.exitCode == 0

namespace Runner

/-- The runner for the git on the search path, if there is one; else starting it is left to fail. -/
def locate : Job Runner := do
  match ← ask (.locate executableName) with
  | some path => return { executable := path }
  | none =>
    tell .debug .runner "git not resolved via PATH lookup, deferring to spawn"
      [("error", .plain "cannot find binary path")]
    return {}

/-- Registers a token to be masked. -/
def hide (runner : Runner) (token : String) : Runner :=
  { runner with redactor := runner.redactor.add token }

/-- Masks the registered tokens in a text. -/
def redact (runner : Runner) (text : String) : String :=
  runner.redactor.redact text

/-- The masked command line of git with the given arguments. -/
def commandLine (runner : Runner) (arguments : List String) : String :=
  runner.redactor.redactCommand executableName arguments

/-- The masked message about a command that failed. The words around the command line are masked
    with it, for a token may coincide with one of them. -/
def failureMessage (runner : Runner) (arguments : List String) : String :=
  runner.redact s!"Command '{runner.commandLine arguments}' failed."

/-- Whether standard error is captured: always when there is something to mask. -/
def capturesError (runner : Runner) (options : RunOptions) : Bool :=
  runner.redactor.isActive || options.capturesError

/-- The process that runs git. It never asks for credentials on a terminal. -/
def process (runner : Runner) (arguments : List String) (directory : Option String)
    (options : RunOptions) : Host.Process where
  executable := runner.executable
  arguments := arguments
  directory := directory
  environment := [("GCM_INTERACTIVE", "never"), ("GIT_TERMINAL_PROMPT", "0")]
  capturesError := runner.capturesError options

/-- The masked outputs of a finished process. -/
def outputOf (runner : Runner) (options : RunOptions) (outcome : Host.Outcome) : Output where
  exitCode := outcome.exitCode
  stdout := runner.redact (Text.Utf8.decodeLossy outcome.output)
  stderr :=
    if runner.capturesError options then
      some (runner.redact (Text.Utf8.decodeLossy outcome.errorOutput))
    else none

/-- Tells of a captured standard error that holds more than blanks. -/
def tellError (severity : Log.Severity) (message : String) : Option String → Job Unit
  | some stderr =>
    if Text.isBlankString stderr then pure ()
    else tell severity .runner message [("stderr", .plain (Text.stripEnd stderr))]
  | none => pure ()

/-- What a finished process means: its outputs, or the failure of the command. -/
def conclude (runner : Runner) (arguments : List String) (options : RunOptions)
    (outcome : Host.Outcome) : Attempt Output := do
  let output := runner.outputOf options outcome
  if output.isSuccess || options.allowsFailure then
    tellError .debug "git stderr" output.stderr
    tell .trace .runner "completed" [("exit_code", .number output.exitCode)]
    return output
  else
    let message := runner.failureMessage arguments
    tell .error .runner message [("exit_code", .number output.exitCode)]
    tellError .error "git error output" output.stderr
    Attempt.failGit (.commandFailed message (some output.exitCode))

/-- The failure to start git. That something is missing means the executable, unless the directory
    to run in is missing. -/
def startFailure {α : Type} (runner : Runner) (arguments : List String)
    (directory : Option String) (cause : SystemFailure) : Attempt α := do
  let directoryExists ←
    match directory with
    | some path => pure (← ask (.fileKind path)).isSome
    | none => pure true
  if cause.isNotFound && directoryExists then
    Attempt.failGit (.executableNotFound runner.executable)
  else Attempt.failGit (.spawn (runner.commandLine arguments) cause)

/-- Tells of the directory that a command runs in, if one was named. -/
def tellDirectory (runner : Runner) : Option String → Job Unit
  | some path => tell .trace .runner "cd" [("cwd", .plain (runner.redact path))]
  | none => pure ()

/-- Runs git with the given arguments in a directory, or in the present one. -/
def run (runner : Runner) (arguments : List String) (directory : Option String)
    (options : RunOptions := {}) : Attempt Output := do
  runner.tellDirectory directory
  tell .debug .runner "exec" [("cmd", .plain (runner.commandLine arguments))]
  runner.lock.acquire
  let answer ← ask (.run (runner.process arguments directory options))
  runner.lock.release
  match answer with
  | .ok outcome => runner.conclude arguments options outcome
  | .error cause => runner.startFailure arguments directory cause

end Runner

end PullRequestBot.Git
