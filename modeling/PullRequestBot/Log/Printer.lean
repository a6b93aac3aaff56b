import PullRequestBot.Calendar.Printer
import PullRequestBot.Json.Printer
import PullRequestBot.Log.Setup
import PullRequestBot.Text.Quoted

set_option autoImplicit false

/-! # Written log events

An event is written on a line of its own: for the log file as plain text with its source, for the
console as coloured text, or as a JSON object for programs that collect logs. -/

namespace PullRequestBot.Log

/-! ## Messages and values -/

/-- Control characters that a terminal might obey are written as numbers. -/
def guardedChar (c : Char) : List Char :=
  let digits := Text.hexDigits c.toNat
  if c = '\x1b' ∨ c = '\x7f' then '\\' :: 'x' :: digits
  else if c = '\x07' ∨ c = '\x08' ∨ c = '\x0c' then '\\' :: 'x' :: '0' :: digits
  else if 0x80 ≤ c.toNat ∧ c.toNat ≤ 0x9F then "\\u\x7b".toList ++ digits ++ ['\x7d']
  else [c]

/-- A message in a line of text. -/
def guarded (message : String) : String :=
  String.ofList (message.toList.flatMap guardedChar)

/-- A value in a line of text. -/
def Value.text : Value → String
  | .plain text => text
  | .quoted text => Text.quote text
  | .number n => toString n

/-- A value in a JSON object. -/
def Value.json : Value → Json
  | .plain text => .string text
  | .quoted text => .string text
  | .number n => Json.ofInt n

/-- The name of a severity with blanks in front up to five characters. -/
def Severity.aligned (severity : Severity) : String :=
  String.ofList (List.replicate (5 - severity.name.length) ' ') ++ severity.name

/-! ## The log file -/

/-- A line of the log file. -/
def Event.fileLine (event : Event) (time : Timestamp) : String :=
  let fields := event.fields.map fun (name, value) => s!" {name}={value.text}"
  s!"{time.microText} {event.severity.aligned} {event.source.target}: {guarded event.message}"
    ++ String.join fields ++ "\n"

/-! ## The console -/

/-- A text between the codes that switch a style on and off. -/
def styled (code : Nat) (text : String) : String :=
  s!"\x1b[{code}m{text}\x1b[0m"

/-- The code of a severity's colour. -/
def Severity.colour : Severity → Nat
  | .error => 31
  | .warn => 33
  | .info => 32
  | .debug => 34
  | .trace => 35

/-- A coloured line of the console. -/
def Event.consoleLine (event : Event) (showTarget : Bool) (time : Timestamp) : String :=
  let severity := styled event.severity.colour event.severity.aligned
  let target := if showTarget then styled 2 event.source.target ++ styled 2 ":" ++ " " else ""
  let fields := event.fields.map fun (name, value) =>
    " " ++ styled 3 name ++ styled 2 "=" ++ value.text
  s!"{styled 2 time.microText} {severity} {target}{guarded event.message}"
    ++ String.join fields ++ "\n"

/-- An event as a JSON object. -/
def Event.json (event : Event) (showTarget : Bool) (time : Timestamp) : Json :=
  let fields := ("message", .string event.message) ::
    event.fields.map fun (name, value) => (name, value.json)
  Json.ofFields <|
    [("timestamp", .string time.microText), ("level", .string event.severity.name),
      ("fields", Json.ofFields fields)] ++
    if showTarget then [("target", .string event.source.target)] else []

/-- A line of the console in the form that the setup asks for. -/
def Setup.consoleLine (setup : Setup) (event : Event) (time : Timestamp) : String :=
  if setup.json then (event.json setup.showTarget time).compact ++ "\n"
  else event.consoleLine setup.showTarget time

end PullRequestBot.Log
