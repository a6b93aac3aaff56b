import PullRequestBot.CommandLine.Reader
import PullRequestBot.Hosting.Selection
import PullRequestBot.Log.Listener
import PullRequestBot.Settings.Loader

set_option autoImplicit false

/-! # The bot

The bot reads its command line, loads its settings, opens its log, and carries out one command with
the backend that the settings ask for. Results go to the standard output, everything else to the
standard error and the log. `run` is the whole bot as a dialogue with its host. -/

namespace PullRequestBot.Program

open Host (ask tell)
open CommandLine (Command GlobalOptions Preparation Push Proposal Remark)

/-! ## Output -/

/-- Prints a line of a result. -/
def printLine (line : String) : Job Unit :=
  ask (.print (line ++ "\n"))

/-- A job that cannot fail, in the course of work with a backend. -/
def aside {α : Type} (job : Job α) : Backend.Act α :=
  ExceptT.mk fun backend => do return (.ok (← job), backend)

/-! ## Commands -/

/-- Shows where the settings come from and what they are. -/
def showSettings (settings : Settings) (listing : List String) : Job Unit := do
  if listing.isEmpty then printLine "# no configuration files loaded"
  for line in listing do printLine s!"# {line}"
  for line in settings.display do printLine line

/-- Makes sure that there is a fork, prepares a branch in a checkout of it, and tells where. -/
def prepare (settings : Settings) (preparation : Preparation) : Backend.Act Unit := do
  let ⟨owner, name⟩ := preparation.repository
  let directory := preparation.directory
  if preparation.skipsFork then
    aside <| tell .info .repositoryCommand s!"skipping fork of {owner}/{name}"
  else Backend.fork owner name
  Backend.prepare owner name directory preparation.branch
    (preparation.base.getD settings.defaultBaseBranch)
  let head ← Backend.withClient (·.revParseHead directory)
  aside <| tell .info .repositoryCommand "checkout ready"
    [("dir", .plain directory), ("branch", .plain preparation.branch), ("head", .plain head)]
  aside <| printLine s!"{directory}\t{preparation.branch}\t{head}"

/-- The account that a branch is pushed to. -/
def pushOwner (push : Push) : Backend.Act String :=
  if push.toFork then Backend.login else return push.repository.owner

/-- Pushes a branch of a checkout, and tells where to. -/
def pushBranch (push : Push) : Backend.Act Unit := do
  let owner ← pushOwner push
  let name := push.repository.name
  Backend.push owner name push.directory push.branch
  aside <| printLine s!"{owner}/{name}\t{push.branch}"

/-- The text of a file. -/
def readText (path : String) : Job (Except SystemFailure String) := do
  match ← ask (.readFile path) with
  | .error cause => return .error cause
  | .ok bytes =>
    match Text.Utf8.decode bytes with
    | some text => return .ok text
    | none => return .error .invalidUtf8

/-- The body of a pull request: the text of a file if one is named. -/
def readBody (proposal : Proposal) : Job (Except Failure String) := do
  match proposal.bodyFile with
  | none => return .ok proposal.body
  | some path =>
    match ← readText path with
    | .ok text => return .ok text
    | .error cause =>
      return .error (.other s!"failed to read pull request body {path}: {cause.message}")

/-- Opens a pull request and prints its record. -/
def openPullRequest (settings : Settings) (proposal : Proposal) : Backend.Act Unit := do
  match ← aside (readBody proposal) with
  | .error failure => throw failure
  | .ok body =>
    let ⟨owner, name⟩ := proposal.repository
    let base := proposal.base.getD settings.defaultBaseBranch
    let pull ← Backend.createPullRequest owner name base proposal.head proposal.title body
    aside <| printLine pull.toJson.pretty

/-- Comments on a pull request. -/
def comment (remark : Remark) : Backend.Act Unit :=
  Backend.comment remark.repository.owner remark.repository.name remark.number remark.body

/-- Prints how many requests are left. -/
def showRequestsLeft : Backend.Act Unit := do
  let quota ← Backend.requestsLeft
  aside <| printLine quota.text

/-- Work with the backend that the settings ask for. -/
def withBackend (settings : Settings) (work : Backend.Act Unit) : Attempt Unit := do
  let backend ← Backend.ofSettings settings
  ExceptT.mk do return (← work.run.run backend).1

/-- Carries out a command. -/
def perform (settings : Settings) (listing : List String) : Option Command → Attempt Unit
  | none => throw (.other "No command specified. Use --help for usage information.")
  | some .version => ExceptT.lift (printLine version)
  | some .options => ExceptT.lift (showSettings settings listing)
  | some (.prepare preparation) => withBackend settings (prepare settings preparation)
  | some (.push push) => withBackend settings (pushBranch push)
  | some (.openPullRequest proposal) => withBackend settings (openPullRequest settings proposal)
  | some (.comment remark) => withBackend settings (comment remark)
  | some .requestsLeft => withBackend settings showRequestsLeft

/-! ## Settings and logging -/

/-- The file with settings that is looked for where the bot is started. -/
def defaultFile : String := "feedstock-bot.toml"

/-- The word that environment variables with settings start with. -/
def environmentWord : String := "FEEDSTOCK_BOT"

/-- Where the settings come from, short of the overrides. -/
def loaderOf (options : GlobalOptions) : Job Settings.Loader := do
  let start : Settings.Loader := {}
  let loader ← if options.skipsDefaultFile then pure start else start.addOptionalFile defaultFile
  return (options.settingsFiles.foldl Settings.Loader.addFile loader).withEnvironment
    environmentWord

/-- Loads the settings of a command line. -/
def loadSettings (loader : Settings.Loader) (options : GlobalOptions) :
    Job (Except SettingsFailure Settings) := do
  match loader.overrideAll options.overrides with
  | .error failure => return .error failure
  | .ok loader => loader.load

/-- What the settings say about logging. -/
def setupOf (settings : Settings) : Log.Setup where
  consoleLevel := settings.outputLogLevel
  fileLevel := settings.fileLogLevel
  logFile := settings.logFile
  json := settings.jsonLogs

/-! ## The whole -/

/-- A failure with all its causes on one line. -/
def failureText (failure : Failure) : String :=
  ": ".intercalate failure.chain

/-- Carries out a command and tells of its failure. The answer is the exit code. -/
def performLogged (settings : Settings) (listing : List String) (command : Option Command) :
    Job Nat := do
  match ← (perform settings listing command).run with
  | .ok () => return 0
  | .error failure =>
    tell .error .program (failureText failure)
    ask (.printError s!"Error: {failureText failure}\n")
    return 1

/-- Ends with a failure before anything is logged. -/
def giveUp (text : String) : Job Nat := do
  ask (.printError (text ++ "\n"))
  return 1

/-- The bot with a command line that it understands. -/
def runLine (line : CommandLine) : Job Nat := do
  if line.command = some .version then
    printLine version
    return 0
  let loader ← loaderOf line.options
  match ← loadSettings loader line.options with
  | .error failure => giveUp s!"Failed to load config: {failure.message}"
  | .ok settings =>
    let setup := setupOf settings
    match ← setup.openFile.run with
    | .error failure => giveUp s!"Failed to initialize logging: {failure.message}"
    | .ok () => setup.listen (performLogged settings loader.listing line.command)

/-- The answer to a command line that is not carried out. -/
def refuse (refusal : CommandLine.Refusal) : Job Nat := do
  match refusal with
  | .version => printLine s!"feedstock-bot {version}"
  | .help => printLine "Usage: feedstock-bot [OPTIONS] [COMMAND]"
  | _ => ask (.printError s!"error: {refusal.message}\n")
  return refusal.exitCode

/-- The whole bot; the answer is its exit code. -/
def run (arguments : List String) : Job Nat :=
  match CommandLine.read arguments with
  | .ok line => runLine line
  | .error refusal => refuse refusal

end PullRequestBot.Program
