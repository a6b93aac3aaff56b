import PullRequestBot.Host.Basic
import PullRequestBot.Host.Path
import PullRequestBot.Log.Printer

set_option autoImplicit false

/-! # Listening to events

`Setup.openFile` opens the log file; `Setup.listen` lets a job run with its events written down where
the setup says. Everything else the job asks goes to the host as before. -/

namespace PullRequestBot.Log

open Host (ask)

namespace Setup

/-- Makes the directory of the log file, if the path names one. -/
def makeDirectory (path : String) : Attempt Unit := do
  match Path.parent path with
  | none | some "" => return
  | some directory =>
    match ← ExceptT.lift (ask (.makeDirectories directory)) with
    | .ok () => return
    | .error cause =>
      throw (.other s!"failed to create log directory {directory}: {cause.message}")

/-- Opens the log file, if there is to be one. -/
def openFile (setup : Setup) : Attempt Unit := do
  match setup.logFile with
  | none => return
  | some path =>
    makeDirectory path
    match ← ExceptT.lift (ask (.openForAppending path)) with
    | .ok () => return
    | .error cause => throw (.other s!"failed to open log file {path}: {cause.message}")

/-- Writes an event on the console, if the level lets it through. -/
def writeConsole (setup : Setup) (event : Event) : Job Unit := do
  if setup.consoleLevel.includes event.severity then
    ask (.printError (setup.consoleLine event (← ask .now)))

/-- Writes an event in the log file, if there is one and the level lets it through. -/
def writeFile (setup : Setup) (event : Event) : Job Unit := do
  match setup.logFile with
  | none => return
  | some path =>
    if setup.fileLevel.includes event.severity then
      ask (.append path (event.fileLine (← ask .now)))

/-- Answers a question: events are written down, everything else is the host's. -/
def answer (setup : Setup) : (question : Host.Question) → Job (Host.Answer question)
  | .tell event => do
    setup.writeConsole event
    setup.writeFile event
  | question => ask question

/-- Runs a job with its events written down. -/
def listen {α : Type} (setup : Setup) (job : Job α) : Job α :=
  job.expandWith setup.answer

end Setup

end PullRequestBot.Log
