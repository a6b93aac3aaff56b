import PullRequestBot.Host.Basic
import PullRequestBot.Host.FileTree
import PullRequestBot.Text.Utf8

set_option autoImplicit false

/-! # Simulated hosts

A simulated host keeps its files in a tree, answers processes and requests from prepared lists, and
writes down what it is told and asked to do. Running a dialogue on it is a pure function. Results that
are not prepared are those of a git that succeeds silently and of a server that answers with
status 599. -/

namespace PullRequestBot.Host

/-! ## What is prepared and what is written down -/

/-- What a simulated server does with one request. -/
inductive Reply where
  | response (response : Http.Response)
  /-- The connection is closed without a response. -/
  | close

/-- A process that was started: its arguments, the directory it ran in, and its environment. -/
structure StartedProcess where
  arguments : List String
  directory : String
  environment : List (String × String)
deriving Repr

/-- A simulated host. What is written down stands latest first. -/
structure Simulation where
  files : FileTree := {}
  environment : List (String × String) := []
  /-- Where git is, if the search path leads to one. -/
  git : Option String := some "/usr/bin/git"
  outcomes : List Outcome := []
  /-- The replies to the requests to come; none if there is no network. -/
  replies : Option (List Reply) := none
  clock : Timestamp := ⟨0, 0⟩
  events : List Log.Event := []
  processes : List StartedProcess := []
  requests : List Http.Request := []
  printed : List String := []
  printedErrors : List String := []

namespace Simulation

/-! ## Files -/

/-- What stands under a path. -/
def fileKind (host : Simulation) (path : String) : Option FileKind :=
  (host.files.find? path).map fun
    | .directory => .directory
    | .file _ => .file

/-- Whether a directory holds anything, or cannot be listed. -/
def hasEntries (host : Simulation) (path : String) : Bool :=
  match host.files.resolve path with
  | .ok place => place.entry.isNone || host.files.hasChildren place.names
  | .error _ => true

/-- The content of the file under a path, if there is one. -/
def content? (host : Simulation) (path : String) : Option (List UInt8) :=
  match host.files.readFile path with
  | .ok bytes => some bytes
  | .error _ => none

/-- Carries out a change of the files, which may be refused. -/
def changeFiles (change : FileTree → Except SystemFailure FileTree) :
    StateM Simulation (Except SystemFailure Unit) :=
  modifyGet fun host =>
    match change host.files with
    | .ok files => (.ok (), { host with files := files })
    | .error failure => (.error failure, host)

/-! ## Processes -/

/-- The place a process runs in. -/
def workplace (host : Simulation) (process : Process) : Except SystemFailure FileTree.Place :=
  match process.directory with
  | none => .ok FileTree.top
  | some path => do
    let place ← host.files.resolve path
    match place.entry with
    | some .directory => .ok place
    | some (.file _) => .error .notADirectory
    | none => .error .noSuchFile

/-- Whether the executable of a process can be started: only git can. An executable with a slash is
    looked for from the directory that the process runs in. -/
def checkExecutable (host : Simulation) (place : FileTree.Place) (executable : String) :
    Except SystemFailure Unit :=
  if executable.toList.contains '/' then
    if host.git = some executable then .ok ()
    else if Path.isAbsolute executable then .error .noSuchFile
    else do
      let target ← (Path.segments executable).foldlM host.files.stepFrom place
      match target.entry with
      | some _ => .error .permissionDenied
      | none => .error .noSuchFile
  else if executable = "git" ∧ host.git.isSome then .ok ()
  else .error .noSuchFile

/-- Whether a process can be started, and where it runs then. -/
def checkStart (host : Simulation) (process : Process) :
    Except SystemFailure FileTree.Place := do
  let texts := process.executable :: process.arguments ++ process.directory.toList
  if texts.any fun text => text.toList.contains '\x00' then throw .nulInArgument
  let place ← host.workplace process
  host.checkExecutable place process.executable
  return place

/-- The names that lead to a place, as a path. -/
def placeText (place : FileTree.Place) : String :=
  if place.names.isEmpty then "." else "/".intercalate place.names

/-- Runs a process: the next prepared outcome, if it can be started. What it writes to its standard
    error goes where the bot's own goes, unless it is captured. -/
def run (process : Process) : StateM Simulation (Except SystemFailure Outcome) :=
  modifyGet fun host =>
    match host.checkStart process with
    | .error failure => (.error failure, host)
    | .ok place =>
      let outcome := host.outcomes.headD {}
      let shown :=
        if process.capturesError then [] else [Text.Utf8.decodeLossy outcome.errorOutput]
      (.ok outcome,
        { host with
          outcomes := host.outcomes.tail
          processes :=
            ⟨process.arguments, placeText place, process.environment⟩ :: host.processes
          printedErrors := shown ++ host.printedErrors })

/-! ## Requests -/

/-- A header value as it arrives: without the spaces and tabs at its ends. -/
def arrivingValue (value : String) : String :=
  let isPadding (c : Char) : Bool := c = ' ' || c = '\t'
  let kept := (value.toList.dropWhile isPadding).reverse.dropWhile isPadding
  String.ofList kept.reverse

/-- A response as it arrives: header values are trimmed, and two statuses have no body. -/
def arriving (response : Http.Response) : Http.Response :=
  let headers := response.headers.map fun (name, value) => (name, arrivingValue value)
  let body := if response.status = 204 ∨ response.status = 304 then [] else response.body
  { response with headers := headers, body := body }

/-- Sends a request: the next prepared reply, if there is a network. -/
def send (request : Http.Request) :
    StateM Simulation (Except Http.TransportFailure Http.Response) :=
  modifyGet fun host =>
    match host.replies with
    | none => (.error (.unreachable .networkUnreachable), host)
    | some replies =>
      let answer :=
        match replies.headD (.response { status := 599 }) with
        | .response response => .ok (arriving response)
        | .close => .error .closed
      (answer, { host with
        replies := some replies.tail, requests := request :: host.requests })

/-! ## Answers -/

/-- Answers a question, and changes accordingly. -/
def answer : (question : Question) → StateM Simulation (Answer question)
  | .tell event => modify fun host => { host with events := event :: host.events }
  | .fileKind path => return (← get).fileKind path
  | .hasEntries path => return (← get).hasEntries path
  | .makeDirectories path => changeFiles (·.makeDirectories path)
  | .lockFile path => changeFiles (·.openFile path)
  | .unlockFile _ => pure ()
  | .readFile path => return (← get).files.readFile path
  | .openForAppending path => changeFiles (·.openFile path)
  | .append path text =>
    modify fun host => { host with files := host.files.appendToFile path (Text.Utf8.encode text) }
  | .print text => modify fun host => { host with printed := text :: host.printed }
  | .printError text => modify fun host => { host with printedErrors := text :: host.printedErrors }
  | .environmentVariable name => return (← get).environment.lookup name
  | .environment => return (← get).environment
  | .locate name => do
    let host ← get
    return if name = "git" then host.git else none
  | .run process => run process
  | .send request _ => send request
  | .now => return (← get).clock
  | .pause _ => pure ()
  | .draw => pure []

/-- Runs a dialogue on a simulated host. -/
def runJob {α : Type} (job : Job α) (host : Simulation) : α × Simulation :=
  (job.answerWith (m := StateM Simulation) answer).run host

end Simulation

end PullRequestBot.Host
