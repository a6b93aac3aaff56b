import PullRequestBot.Log.Level

set_option autoImplicit false

/-! # What is logged where

A `Setup` says how much is logged on the console and in a file, and in what form. -/

namespace PullRequestBot.Log

/-- What is logged where. -/
structure Setup where
  consoleLevel : Level := .info
  fileLevel : Level := .trace
  /-- The file that is logged in; nothing is without one. -/
  logFile : Option String := none
  /-- Whether the console gets one JSON object a line. -/
  json : Bool := false
  /-- Whether the console is told the source of an event. -/
  showTarget : Bool := false
deriving DecidableEq, Repr

end PullRequestBot.Log
