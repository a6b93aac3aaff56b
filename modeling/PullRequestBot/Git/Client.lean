import PullRequestBot.Git.Command
import PullRequestBot.Git.Listing
import PullRequestBot.Git.Runner

set_option autoImplicit false

/-! # Repository operations

A client carries out operations on a checkout, each by one git command, some after or before a look
at what is there. Every failure says what was wrong in the terms of the operation. -/

namespace PullRequestBot.Git

open Host (ask tell)

/-- Carries out repository operations through a runner. -/
structure Client where
  runner : Runner := {}

/-- The full name of a local branch. -/
def localBranchRef (branch : String) : String :=
  s!"refs/heads/{branch}"

/-- The full name of a remote-tracking reference. -/
def trackingRef (branch : String) : String :=
  s!"refs/remotes/{branch}"

/-- No branch is looked up where remote branches are. -/
theorem localBranchRef_ne_trackingRef (branch remoteBranch : String) :
    localBranchRef branch ≠ trackingRef remoteBranch := by
  intro h
  have hfifth : ("refs/heads/" ++ branch).toList[5]? = ("refs/remotes/" ++ remoteBranch).toList[5]? :=
    congrArg (fun reference => reference.toList[5]?) h
  rw [String.toList_append, String.toList_append] at hfifth
  exact absurd hfifth (show some 'h' ≠ some 'r' by decide)

/-- Whether a text is a commit id: forty digits to base 16, small letters. -/
def isCommitId (cs : List Char) : Bool :=
  cs.length == 40 && cs.all fun c => ('0' ≤ c && c ≤ '9') || ('a' ≤ c && c ≤ 'f')

/-- Whether git's listing of remotes has a line of that name. -/
def listsRemote (output name : String) : Bool :=
  (Text.lines output.toList).any fun line => Text.trim line == name.toList

namespace Client

/-! ## Running commands -/

/-- Runs a command in a checkout. -/
def run (client : Client) (directory : String) (command : Command) : Attempt Output :=
  client.runner.run command.arguments (some directory)

/-- Runs a command in a checkout for its effect alone. -/
def perform (client : Client) (directory : String) (command : Command) : Attempt Unit := do
  let _ ← client.run directory command

/-- Whether a command succeeds. It is not even started in a directory that does not exist, and no
    failure comes out. -/
def probe (client : Client) (directory : Option String) (command : Command) : Job Bool := do
  if let some path := directory then
    if (← ask (.fileKind path)) ≠ some .directory then return false
  let result ← client.runner.run command.arguments directory
    { allowsFailure := true, capturesError := true } |>.run
  match result with
  | .ok output => return output.isSuccess
  | .error _ => return false

/-- The failure of a command whose failure had been allowed. -/
def failed {α : Type} (client : Client) (command : Command) (exitCode : Int) : Attempt α := do
  let message := client.runner.failureMessage command.arguments
  tell .warn .client message [("exit_code", .number exitCode)]
  Attempt.failGit (.commandFailed message (some exitCode))

/-! ## Changes -/

/-- Stages paths, or everything; one of the two has to be asked for. -/
def stage (client : Client) (directory : String) (paths : List String) (all : Bool) :
    Attempt Unit :=
  if paths.isEmpty && !all then
    Attempt.failGit (.invalidArgument "either paths or all must be set")
  else client.perform directory (.stage paths all)

/-- Records a commit. -/
def commit (client : Client) (directory text : String) (all allowsEmpty : Bool) : Attempt Unit :=
  client.perform directory (.commit text all allowsEmpty)

/-- Throws all changes away back to a commit. -/
def hardReset (client : Client) (directory target : String) : Attempt Unit :=
  client.perform directory (.hardReset target)

/-- Whether a path is taken by anything but an empty directory. -/
def isTaken (path : String) : Job Bool := do
  match ← ask (.fileKind path) with
  | none => return false
  | some .file => return true
  | some .directory => ask (.hasEntries path)

/-- Clones a repository into a directory, which must be empty or missing. -/
def clone (client : Client) (url target : String) : Attempt Unit := do
  if ← isTaken target then Attempt.failGit (.targetNotEmpty target)
  let output ← client.runner.run (Command.clone url target).arguments none
    { allowsFailure := true }
  if !output.isSuccess then
    let shown := client.runner.redact url
    tell .warn .client "clone failed"
      [("url", .plain shown), ("exit_code", .number output.exitCode)]
    Attempt.failGit (.cloneFailed shown)

/-- Configures a remote; its name must be free. -/
def addRemote (client : Client) (directory name url : String) : Attempt Unit := do
  let remotes ← client.runner.run Command.listRemotes.arguments (some directory)
    { allowsFailure := true }
  if remotes.isSuccess && listsRemote remotes.stdout name then
    Attempt.failGit (.remoteExists name)
  client.perform directory (.addRemote name url)

/-- Pushes a branch to the branch of the same name on a remote. -/
def push (client : Client) (directory remote branch : String) : Attempt Unit :=
  client.perform directory (.push remote branch)

/-- Fetches from every remote. -/
def fetchAll (client : Client) (directory : String) : Attempt Unit :=
  client.perform directory .fetchAll

/-! ## Looks -/

/-- Whether a full reference name exists. -/
def refExists (client : Client) (directory reference : String) : Job Bool :=
  client.probe (some directory) (.showRef reference)

/-- Whether a local branch exists. -/
def branchExists (client : Client) (directory name : String) : Job Bool :=
  client.refExists directory (localBranchRef name)

/-- Whether a remote answers. -/
def remoteExists (client : Client) (url : String) : Job Bool :=
  client.probe none (.listRefs url)

/-! ## Checkouts -/

/-- Checks a branch out; with tracking, the branch is made from the remote branch of that name. When
    git refuses, a look at the reference tells whether it is missing. -/
def checkout (client : Client) (directory branch : String) (track : Bool) : Attempt Unit := do
  let command := Command.checkout branch track
  let output ← client.runner.run command.arguments (some directory) { allowsFailure := true }
  if !output.isSuccess then
    let reference := if track then trackingRef branch else localBranchRef branch
    if !(← client.refExists directory reference) then
      Attempt.failGit
        (if track then .trackingRefMissing (client.runner.redact reference)
          else .branchNotFound (client.runner.redact branch))
    client.failed command output.exitCode

/-- Makes a branch and checks it out. -/
def checkoutNew (client : Client) (directory branch start : String) : Attempt Unit :=
  client.perform directory (.checkoutNew branch start)

/-! ## Answers -/

/-- Lists the paths changed since a commit. -/
def listChanges (client : Client) (directory since : String) : Attempt Listing := do
  let output ← client.run directory (.diff since)
  return .ofText output.stdout

/-- The paths changed since a commit. -/
def diffedFiles (client : Client) (directory since : String) : Attempt (List String) := do
  let listing ← client.listChanges directory since
  return listing.paths

/-- The id of the present commit. -/
def revParseHead (client : Client) (directory : String) : Attempt String := do
  let output ← client.run directory .revParseHead
  let id := Text.trim output.stdout.toList
  if !isCommitId id then
    Attempt.failGit (.unexpectedOutput "git rev-parse HEAD" (String.ofList id))
  tell .debug .client "resolved HEAD" [("head", .quoted (String.ofList id))]
  return String.ofList id

end Client

end PullRequestBot.Git
