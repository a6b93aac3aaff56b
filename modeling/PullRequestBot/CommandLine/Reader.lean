import PullRequestBot.CommandLine.Basic
import PullRequestBot.CommandLine.Matching

set_option autoImplicit false

/-! # Reading command lines

`CommandLine.read` reads the arguments of the bot. Options that apply to every command may stand before
or after its name; what stands after it wins. -/

namespace PullRequestBot.CommandLine

/-! ## Grammars -/

/-- The option that asks for help. -/
def helpOption : Parameter :=
  { name := "help", kind := .help, words := ["help"], letter := 'h' }

/-- The option that asks for the version. -/
def versionOption : Parameter :=
  { name := "version", kind := .version, words := ["version"], letter := 'V' }

/-- The options that apply to every command. -/
def globalOptions : List Parameter :=
  [{ name := "config", kind := .repeated .path, words := ["config", "ini"], letter := 'c' },
    { name := "no-default-config", kind := .flag, words := ["no-default-config"] },
    { name := "dry-run", kind := .flag, words := ["dry-run"] },
    { name := "log-level", kind := .single .level, words := ["log-level"], letter := 'l' },
    { name := "file-log-level", kind := .single .level, words := ["file-log-level"] },
    { name := "log-file", kind := .single .path, words := ["log-file"] },
    { name := "set", kind := .repeated .text, words := ["set"], letter := 's' }]

/-- The repository that a command is about. -/
def repositoryOperand : Parameter :=
  { name := "repository", kind := .single .repository, isRequired := true }

/-- The directory of a checkout. -/
def directoryOption : Parameter :=
  { name := "dir", kind := .single .path, words := ["dir"], letter := 'd', isRequired := true }

/-- A branch of a checkout. -/
def branchOption : Parameter :=
  { name := "branch", kind := .single .text, words := ["branch"], letter := 'b', isRequired := true }

/-- The branch that work starts from or is merged into. -/
def baseOption : Parameter :=
  { name := "base", kind := .single .text, words := ["base"] }

/-- The text of a pull request or comment. -/
def bodyOption (isRequired : Bool) : Parameter :=
  { name := "body", kind := .single .text, words := ["body"], letter := 'm', isRequired := isRequired }

/-- The grammar of a command with operands and options of its own. -/
def commandGrammar (operands options : List Parameter) (conflicts : List (String × String) := []) :
    Grammar :=
  { operands := operands
    options := options ++ globalOptions ++ [helpOption]
    conflicts := conflicts }

/-- The grammar behind the name of a command. -/
def grammarOf (command : String) : Grammar :=
  match command with
  | "prepare" =>
    commandGrammar [repositoryOperand] [directoryOption, branchOption, baseOption,
      { name := "no-fork", kind := .flag, words := ["no-fork"] }]
  | "push" =>
    commandGrammar [repositoryOperand] [directoryOption, branchOption,
      { name := "fork", kind := .flag, words := ["fork"] }]
  | "open-pr" =>
    commandGrammar [repositoryOperand]
      [{ name := "head", kind := .single .text, words := ["head"], isRequired := true }, baseOption,
        { name := "title", kind := .single .text, words := ["title"], letter := 't',
          isRequired := true },
        bodyOption false,
        { name := "body-file", kind := .single .path, words := ["body-file"] }]
      [("body", "body-file")]
  | "comment" =>
    commandGrammar
      [repositoryOperand, { name := "number", kind := .single .number, isRequired := true }]
      [bodyOption true]
  | _ => commandGrammar [] []

/-- The grammar in front of the name of a command. -/
def topGrammar : Grammar :=
  { options := globalOptions ++ [helpOption, versionOption]
    commands := [("version", ["-v"]), ("options", []), ("prepare", []), ("push", []),
      ("open-pr", []), ("comment", []), ("rate-limit", [])] }

/-! ## From values to commands -/

namespace Given

/-- Whether an argument was given. -/
def has (given : Given) (name : String) : Bool :=
  (given.lookup name).isSome

/-- All values of an argument. -/
def all (given : Given) (name : String) : List String :=
  (given.lookup name).getD []

/-- The value of an argument. -/
def value? (given : Given) (name : String) : Option String :=
  (given.all name).head?

/-- The value of an argument that has to be given. -/
def value (given : Given) (name : String) : Except Refusal String :=
  match given.value? name with
  | some value => .ok value
  | none => .error .missingRequiredArgument

/-- The repository that a command is about. -/
def repository (given : Given) : Except Refusal RepositoryName := do
  match RepositoryName.read? (← value given "repository") with
  | some repository => return repository
  | none => throw .valueValidation

/-- The number of a pull request. -/
def number (given : Given) : Except Refusal UInt64 := do
  match number? (← value given "number") with
  | some number => return UInt64.ofNat number
  | none => throw .valueValidation

/-- The options that apply to every command. -/
def options (given : Given) : GlobalOptions where
  settingsFiles := all given "config"
  skipsDefaultFile := has given "no-default-config"
  dryRun := has given "dry-run"
  logLevel := (value? given "log-level").bind level?
  fileLogLevel := (value? given "file-log-level").bind level?
  logFile := value? given "log-file"
  assignments := all given "set"

/-- The command of a name. -/
def command (given : Given) (name : String) : Except Refusal Command := do
  match name with
  | "version" => return .version
  | "options" => return .options
  | "prepare" =>
    return .prepare {
      repository := ← repository given
      directory := ← value given "dir"
      branch := ← value given "branch"
      base := value? given "base"
      skipsFork := has given "no-fork" }
  | "push" =>
    return .push {
      repository := ← repository given
      directory := ← value given "dir"
      branch := ← value given "branch"
      toFork := has given "fork" }
  | "open-pr" =>
    return .openPullRequest {
      repository := ← repository given
      head := ← value given "head"
      base := value? given "base"
      title := ← value given "title"
      body := (value? given "body").getD ""
      bodyFile := value? given "body-file" }
  | "comment" =>
    return .comment {
      repository := ← repository given
      number := ← number given
      body := ← value given "body" }
  | _ => return .requestsLeft

end Given

/-! ## The whole -/

/-- Reads the arguments of the bot. -/
def read (arguments : List String) : Except Refusal CommandLine := do
  let (outer, next) ← topGrammar.readLevel {} arguments
  match next with
  | none =>
    return { options := Given.options (← topGrammar.finish outer) }
  | some (name, rest) =>
    let grammar := grammarOf name
    let (inner, _) ← grammar.readLevel {} rest
    let inner ← grammar.finish inner
    let outer ← topGrammar.finish outer
    return {
      options := Given.options (inner ++ outer)
      command := some (← Given.command inner name) }

end PullRequestBot.CommandLine
