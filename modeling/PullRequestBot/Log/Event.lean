set_option autoImplicit false

/-! # Log events

Everything worth telling is told as an event: how severe it is, which part of the program tells it,
a message, and named fields. Who listens, and how an event is written, is decided elsewhere. -/

namespace PullRequestBot.Log

/-- How severe an event is. -/
inductive Severity where
  | error
  | warn
  | info
  | debug
  | trace
deriving DecidableEq, Repr

/-- The name of a severity. -/
def Severity.name : Severity → String
  | .error => "ERROR"
  | .warn => "WARN"
  | .info => "INFO"
  | .debug => "DEBUG"
  | .trace => "TRACE"

/-- Severities count up from the most severe. -/
def Severity.rank : Severity → Nat
  | .error => 1
  | .warn => 2
  | .info => 3
  | .debug => 4
  | .trace => 5

/-- The part of the program that tells an event. -/
inductive Source where
  | runner
  | client
  | branching
  | backend
  | live
  | dryRun
  | repositoryCommand
  | program
deriving DecidableEq, Repr

/-- The name a log file gives to a source. -/
def Source.target : Source → String
  | .runner => "feedstock_bot::git::runner"
  | .client => "feedstock_bot::git::cli"
  | .branching => "feedstock_bot::git::protocol"
  | .backend => "feedstock_bot::platform"
  | .live => "feedstock_bot::platform::github"
  | .dryRun => "feedstock_bot::platform::dry_run"
  | .repositoryCommand => "feedstock_bot::cmd::repo"
  | .program => "feedstock_bot"

/-- The value of a field. A log file quotes a `quoted` text and writes a `plain` one as it is. -/
inductive Value where
  | plain (text : String)
  | quoted (text : String)
  | number (n : Int)
deriving DecidableEq, Repr

/-- One event; the fields stand in the order in which they are told. -/
structure Event where
  severity : Severity
  source : Source
  message : String
  fields : List (String × Value) := []
deriving DecidableEq, Repr

end PullRequestBot.Log
