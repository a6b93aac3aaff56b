import PullRequestBot.Failure
import PullRequestBot.Log.Event

set_option autoImplicit false

/-! # Log levels

How much is logged is a number from 0, nothing, to 6, everything. Levels 5 and 6 let the same events of
the bot through; they differ in what else may speak. -/

namespace PullRequestBot.Log

/-- How much is logged. -/
structure Level where
  number : Nat
  number_le : number ≤ 6 := by omega
deriving DecidableEq, Repr

namespace Level

/-- The level for results and what goes wrong. -/
def info : Level := ⟨3, by omega⟩

/-- The level for everything the bot tells. -/
def trace : Level := ⟨5, by omega⟩

/-- The level of a number, if it is in the range. -/
def ofNat? (number : Nat) : Option Level :=
  if h : number ≤ 6 then some ⟨number, h⟩ else none

/-- The level of a number; a number outside the range is a failure. -/
def read (number : Nat) : Except SettingsFailure Level :=
  match ofNat? number with
  | some level => .ok level
  | none => .error (.invalidValue "global" "log_level" s!"log level must be 0-6, got {number}")

/-- Whether events of a severity are let through. -/
def includes (level : Level) (severity : Severity) : Bool :=
  severity.rank ≤ level.number

/-- The directives of a level: the bot's own limit, and a lower one for the network stack. -/
def directives (level : Level) : String :=
  match level.number with
  | 0 => "off"
  | 1 => "error"
  | 2 => "warn"
  | 3 => "info,hyper=warn,hyper_util=warn,reqwest=warn"
  | 4 => "debug,hyper=warn,hyper_util=warn,reqwest=warn"
  | 5 => "trace,hyper=warn,hyper_util=warn,reqwest=warn,h2=warn,rustls=warn"
  | _ => "trace"

end Level

end PullRequestBot.Log
