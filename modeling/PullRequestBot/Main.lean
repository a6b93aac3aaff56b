import PullRequestBot.Program

set_option autoImplicit false

/-! # The bot on the command line

Answers what the bot asks with the files, the environment and the clock of the machine it runs on. This
host starts no processes and has no network: the bot is told so as of any other refusal. All decisions
are made by `Program.run`; this module only carries questions to the system and answers back. -/

namespace PullRequestBot.Main

/-! ## Files -/

/-- Why the system refused, as far as it can be told apart. -/
def failureOf : IO.Error → SystemFailure
  | .noFileOrDirectory .. | .noSuchThing .. => .noSuchFile
  | .permissionDenied .. => .permissionDenied
  | .alreadyExists .. => .fileExists
  | .inappropriateType .. => .notADirectory
  | error => .unnumbered error.toString

/-- The result of an action that the system may refuse. -/
def attempt {α : Type} (action : IO α) : IO (Except SystemFailure α) := do
  try return .ok (← action)
  catch error => return .error (failureOf error)

/-- What stands under a path. -/
def fileKind (path : String) : IO (Option Host.FileKind) := do
  try
    let place ← IO.FS.realPath path
    match (← place.metadata).type with
    | .dir => return some .directory
    | _ => return some .file
  catch _ => return none

/-- Whether a directory holds anything, or cannot be listed. -/
def hasEntries (path : String) : IO Bool := do
  try
    let place ← IO.FS.realPath path
    return !(← place.readDir).isEmpty
  catch _ => return true

/-- Opens a file for adding to its end. -/
def openEnd (path : String) : IO IO.FS.Handle :=
  IO.FS.Handle.mk path .append

/-! ## Environment and clock -/

/-- The environment variables of the process. -/
def environment : IO (List (String × String)) := do
  try
    let bytes ← IO.FS.readBinFile "/proc/self/environ"
    let entries := Text.piecesOfString '\x00' (Text.Utf8.decodeLossy bytes.toList)
    return entries.filterMap (Text.cutString '=')
  catch _ => return []

/-- The first number behind a word on a line of a system file. -/
def numberBehind? (word content : String) : Option Nat := do
  let line ← (Text.lines content.toList).find? word.toList.isPrefixOf
  let digits := (line.drop word.length).dropWhile fun c => !c.isDigit
  Spelled.natural? (Word.bound 64) (String.ofList (digits.takeWhile Char.isDigit))

/-- The present time: the start of the machine and the time that it has been up. -/
def now : IO Timestamp := do
  try
    let start := (numberBehind? "btime " (← IO.FS.readFile "/proc/stat")).getD 0
    let up := (numberBehind? "" (← IO.FS.readFile "/proc/uptime")).getD 0
    return ⟨start + up, 0⟩
  catch _ => return ⟨0, 0⟩

/-- The path of an executable in the directories of the search path. -/
def locate (name : String) : IO (Option String) := do
  let directories := Text.piecesOfString ':' ((← IO.getEnv "PATH").getD "")
  let candidates := directories.map fun directory => s!"{directory}/{name}"
  candidates.findM? fun candidate => do return (← fileKind candidate) == some .file

/-! ## Answers -/

/-- The files that are locked, with their handles. -/
abbrev Locks := IO.Ref (List (String × IO.FS.Handle))

/-- Opens and locks a file. -/
def lock (locks : Locks) (path : String) : IO (Except SystemFailure Unit) :=
  attempt do
    let handle ← openEnd path
    handle.lock
    locks.modify ((path, handle) :: ·)

/-- Unlocks a file. -/
def unlock (locks : Locks) (path : String) : IO Unit := do
  for (locked, handle) in ← locks.get do
    if locked == path then handle.unlock
  locks.modify fun held => held.filter fun (locked, _) => locked != path

/-- Answers a question of the bot. -/
def answer (locks : Locks) : (question : Host.Question) → IO (Host.Answer question)
  | .tell _ => return
  | .fileKind path => fileKind path
  | .hasEntries path => hasEntries path
  | .makeDirectories path => attempt (IO.FS.createDirAll path)
  | .lockFile path => lock locks path
  | .unlockFile path => unlock locks path
  | .readFile path => attempt do return (← IO.FS.readBinFile path).toList
  | .openForAppending path => attempt do let _ ← openEnd path
  | .append path text => do (← openEnd path).putStr text
  | .print text => IO.print text
  | .printError text => IO.eprint text
  | .environmentVariable name => IO.getEnv name
  | .environment => environment
  | .locate name => locate name
  | .run _ => return .error .notImplemented
  | .send _ _ => return .error (.unreachable .networkUnreachable)
  | .now => now
  | .pause seconds => IO.sleep (UInt32.ofNat (1000 * seconds))
  | .draw => (List.range 64).mapM fun _ => IO.rand 0 63

/-- Runs a job on this machine. -/
def runJob {α : Type} (job : Job α) : IO α := do
  let locks ← IO.mkRef []
  job.answerWith (m := IO) (answer locks)

end PullRequestBot.Main

/-- Runs the bot with the arguments of the process. -/
def main (arguments : List String) : IO UInt32 := do
  return UInt32.ofNat (← PullRequestBot.Main.runJob (PullRequestBot.Program.run arguments))
