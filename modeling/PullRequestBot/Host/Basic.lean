import PullRequestBot.Calendar.Timestamp
import PullRequestBot.Dialogue
import PullRequestBot.Failure
import PullRequestBot.Log.Event
import PullRequestBot.Web.Http

set_option autoImplicit false

/-! # The host

All that the bot needs from the world around it is asked of its host: files, processes, the network,
the environment, the clock, chance, and places to write to. `Question` lists what can be asked, `Answer` says
what an answer looks like. An `Attempt` is a dialogue with the host that may fail. -/

namespace PullRequestBot.Host

/-! ## Processes -/

/-- A process to start. Its standard output is always captured. -/
structure Process where
  executable : String
  arguments : List String
  directory : Option String := none
  /-- Variables set for the process alone. -/
  environment : List (String × String) := []
  /-- Whether standard error is captured; else it goes where the bot's own goes. -/
  capturesError : Bool := false
deriving DecidableEq, Repr

/-- How a process ended. -/
inductive Ending where
  | exited (code : Int)
  | killed (signal : Int)
deriving DecidableEq, Repr

/-- What a process left behind. -/
structure Outcome where
  ending : Ending := .exited 0
  output : List UInt8 := []
  errorOutput : List UInt8 := []
deriving DecidableEq, Repr

/-- The exit code; -1 for a process that was killed. -/
def Outcome.exitCode (outcome : Outcome) : Int :=
  match outcome.ending with
  | .exited code => code
  | .killed _ => -1

/-! ## Questions and answers -/

/-- What stands under a path. -/
inductive FileKind where
  | directory
  | file
deriving DecidableEq, Repr

/-- What can be asked of the host. -/
inductive Question where
  /-- Tell whoever listens of an event. -/
  | tell (event : Log.Event)
  /-- What stands under a path, if anything. -/
  | fileKind (path : String)
  /-- Whether a directory holds anything, or cannot be listed. -/
  | hasEntries (path : String)
  /-- Make a directory and the missing ones above it. -/
  | makeDirectories (path : String)
  /-- Open a file, made if missing, and wait for the exclusive lock on it. -/
  | lockFile (path : String)
  /-- Release the lock on a file. -/
  | unlockFile (path : String)
  /-- The content of a file. -/
  | readFile (path : String)
  /-- Open a file, made if missing, for adding to its end. -/
  | openForAppending (path : String)
  /-- Add a text to the end of an open file. -/
  | append (path text : String)
  /-- Write to the standard output. -/
  | print (text : String)
  /-- Write to the standard error. -/
  | printError (text : String)
  /-- The value of an environment variable. -/
  | environmentVariable (name : String)
  /-- All environment variables. -/
  | environment
  /-- Where the search path has an executable of that name. -/
  | locate (name : String)
  /-- Run a process to its end. -/
  | run (process : Process)
  /-- Send a request and wait for the response, at most the given number of seconds. -/
  | send (request : Http.Request) (timeout : Nat)
  /-- The present time. -/
  | now
  /-- Wait for a number of seconds. -/
  | pause (seconds : Nat)
  /-- Draw numbers, for an order that is left to chance. -/
  | draw

/-- What a question is answered with. -/
@[reducible] def Answer : Question → Type
  | .tell _ => Unit
  | .fileKind _ => Option FileKind
  | .hasEntries _ => Bool
  | .makeDirectories _ => Except SystemFailure Unit
  | .lockFile _ => Except SystemFailure Unit
  | .unlockFile _ => Unit
  | .readFile _ => Except SystemFailure (List UInt8)
  | .openForAppending _ => Except SystemFailure Unit
  | .append _ _ => Unit
  | .print _ => Unit
  | .printError _ => Unit
  | .environmentVariable _ => Option String
  | .environment => List (String × String)
  | .locate _ => Option String
  | .run _ => Except SystemFailure Outcome
  | .send _ _ => Except Http.TransportFailure Http.Response
  | .now => Timestamp
  | .pause _ => Unit
  | .draw => List Nat

end Host

/-! ## Attempts -/

/-- A dialogue with the host. -/
abbrev Job (α : Type) := Dialogue Host.Answer α

/-- A dialogue with the host that may fail. -/
abbrev Attempt (α : Type) := ExceptT Failure (Dialogue Host.Answer) α

namespace Host

/-- Asks the host. -/
def ask (question : Question) : Job (Answer question) :=
  Dialogue.question question

/-- Tells of an event. -/
def tell (severity : Log.Severity) (source : Log.Source) (message : String)
    (fields : List (String × Log.Value) := []) : Job Unit :=
  ask (.tell ⟨severity, source, message, fields⟩)

end Host

namespace Attempt

/-- Fails with a git failure. -/
def failGit {α : Type} (failure : GitFailure) : Attempt α :=
  throw (.git failure)

/-- Fails with a failure of the hosting platform. -/
def failPlatform {α : Type} (failure : PlatformFailure) : Attempt α :=
  throw (.platform failure)

end Attempt

end PullRequestBot
