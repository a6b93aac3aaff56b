import PullRequestBot.Hosting.Live
import PullRequestBot.Json.Basic
import PullRequestBot.Log.Level
import PullRequestBot.Text.Blank
import PullRequestBot.Text.Quoted

set_option autoImplicit false

/-! # Settings

All settings have a default, so every source may name as few of them as it likes. `Setting` lists them
with the section and the key that name them; `Settings` holds their values. `problem?` checks what the
types of the values cannot, `display` lists the values without showing the token. -/

namespace PullRequestBot

/-! ## Names -/

namespace Settings

/-- A section of the settings. -/
inductive Section where
  | global
  | backend
  | github
deriving DecidableEq, Repr

namespace Section

/-- All sections in order. -/
def all : List Section := [global, backend, github]

/-- The key of a section in the top table. -/
def name : Section → String
  | global => "global"
  | backend => "backend"
  | github => "github"

/-- What messages call the values of a section taken together. -/
def typeName : Section → String
  | global => "GlobalConfig"
  | backend => "BackendConfig"
  | github => "GitHubConfig"

end Section

end Settings

/-- One of the settings. -/
inductive Setting where
  /-- Log the calls on the platform instead of sending them. -/
  | dryRun
  /-- How much is logged on the console. -/
  | outputLogLevel
  /-- How much is logged in the file. -/
  | fileLogLevel
  /-- The file that is logged in. -/
  | logFile
  /-- Log on the console as JSON. -/
  | jsonLogs
  /-- The branch that new work starts from when none is given. -/
  | defaultBaseBranch
  /-- The file that makes git commands of several processes take turns. -/
  | lockFile
  /-- The address of the platform's interface. -/
  | apiUrl
  /-- The token, given directly. -/
  | token
  /-- The environment variable that holds the token. -/
  | tokenVariable
  /-- Seconds to wait for a response. -/
  | requestTimeout
  /-- Seconds to wait after a fork was asked for. -/
  | forkSettle
  /-- How often to look for a new fork. -/
  | forkVisibilityAttempts
  /-- Seconds to wait after a default branch was renamed. -/
  | branchSync
deriving DecidableEq, Repr

namespace Setting

/-- The section that a setting belongs to. -/
def group : Setting → Settings.Section
  | dryRun | outputLogLevel | fileLogLevel | logFile | jsonLogs => .global
  | defaultBaseBranch | lockFile => .backend
  | apiUrl | token | tokenVariable | requestTimeout | forkSettle | forkVisibilityAttempts
  | branchSync => .github

/-- The key of a setting in its section. -/
def key : Setting → String
  | dryRun => "dry_run"
  | outputLogLevel => "output_log_level"
  | fileLogLevel => "file_log_level"
  | logFile => "log_file"
  | jsonLogs => "json_logs"
  | defaultBaseBranch => "default_base_branch"
  | lockFile => "lock_file"
  | apiUrl => "api_url"
  | token => "token"
  | tokenVariable => "token_env"
  | requestTimeout => "request_timeout_secs"
  | forkSettle => "fork_settle_secs"
  | forkVisibilityAttempts => "fork_visibility_attempts"
  | branchSync => "branch_sync_secs"

/-- All settings, section by section. -/
def all : List Setting :=
  [dryRun, outputLogLevel, fileLogLevel, logFile, jsonLogs, defaultBaseBranch, lockFile, apiUrl,
    token, tokenVariable, requestTimeout, forkSettle, forkVisibilityAttempts, branchSync]

theorem mem_all (setting : Setting) : setting ∈ all := by
  cases setting <;> decide

/-- The section and the key with a dot between them. -/
def name (setting : Setting) : String :=
  s!"{setting.group.name}.{setting.key}"

end Setting

/-- The settings of a section, in order. -/
def Settings.Section.settings (group : Settings.Section) : List Setting :=
  Setting.all.filter fun setting => setting.group = group

/-! ## Values -/

/-- The values of all settings. -/
structure Settings where
  dryRun : Bool := false
  outputLogLevel : Log.Level := .info
  fileLogLevel : Log.Level := .trace
  logFile : Option String := none
  jsonLogs : Bool := false
  defaultBaseBranch : String := "main"
  lockFile : Option String := none
  apiUrl : String := defaultApiUrl
  token : Option String := none
  tokenVariable : String := "BOT_TOKEN"
  requestTimeout : Nat := 30
  forkSettle : Nat := 5
  forkVisibilityAttempts : Nat := 1
  branchSync : Nat := 5
deriving DecidableEq, Repr

namespace Settings

/-- The waits of the live backend. -/
def forkTiming (settings : Settings) : ForkTiming where
  settle := settings.forkSettle
  attempts := settings.forkVisibilityAttempts
  branchSync := settings.branchSync

/-! ## Checks -/

/-- Whether an address names one of the two protocols that requests can use. -/
def isWebAddress (url : String) : Bool :=
  "http://".toList.isPrefixOf url.toList || "https://".toList.isPrefixOf url.toList

/-- The first setting with a value out of its range, and what it has to be. -/
def problem? (settings : Settings) : Option (Setting × String) :=
  if Text.isBlankString settings.defaultBaseBranch then
    some (.defaultBaseBranch, "must not be empty")
  else if !isWebAddress settings.apiUrl then some (.apiUrl, "must be an http(s) URL")
  else if settings.tokenVariable.isEmpty then some (.tokenVariable, "must not be empty")
  else if settings.requestTimeout = 0 then some (.requestTimeout, "must be at least 1")
  else if settings.forkVisibilityAttempts = 0 then
    some (.forkVisibilityAttempts, "must be at least 1")
  else none

/-- The settings, if no value is out of its range. -/
def checked (settings : Settings) : Except SettingsFailure Settings :=
  match settings.problem? with
  | none => .ok settings
  | some (setting, detail) =>
    .error (.invalidValue setting.group.name setting.key detail)

/-! ## The token -/

/-- A text that is not empty. -/
def nonempty? (text : Option String) : Option String :=
  text.filter fun text => !text.isEmpty

/-- The token given directly, else the one that the environment holds; empty ones do not count. -/
def resolveToken (settings : Settings) : Job (Option String) := do
  match nonempty? settings.token with
  | some token => return some token
  | none => return nonempty? (← Host.ask (.environmentVariable settings.tokenVariable))

/-! ## Display -/

/-- The value of a setting as it is shown; nothing is shown for a missing token, and not the token
    itself for a given one. -/
def shown? (settings : Settings) : Setting → Option String
  | .dryRun => some (toString settings.dryRun)
  | .outputLogLevel => some (toString settings.outputLogLevel.number)
  | .fileLogLevel => some (toString settings.fileLogLevel.number)
  | .logFile => some (settings.logFile.getD "")
  | .jsonLogs => some (toString settings.jsonLogs)
  | .defaultBaseBranch => some settings.defaultBaseBranch
  | .lockFile => some (settings.lockFile.getD "")
  | .apiUrl => some settings.apiUrl
  | .token => (nonempty? settings.token).map fun _ => "[hidden]"
  | .tokenVariable => some settings.tokenVariable
  | .requestTimeout => some (toString settings.requestTimeout)
  | .forkSettle => some (toString settings.forkSettle)
  | .forkVisibilityAttempts => some (toString settings.forkVisibilityAttempts)
  | .branchSync => some (toString settings.branchSync)

/-- A text with blanks behind it up to a width. -/
def padded (width : Nat) (text : String) : String :=
  text ++ String.ofList (List.replicate (width - text.length) ' ')

/-- One line for each setting with a value, ordered by name, with the values below one another. -/
def display (settings : Settings) : List String :=
  let shown := Setting.all.filterMap fun setting =>
    (settings.shown? setting).map fun value => (setting.name, value)
  let width := (shown.map fun line => line.1.length).foldl max 0
  (shown.mergeSort fun a b => decide (a.1 ≤ b.1)).map fun (name, value) =>
    s!"{padded width name} = {value}"

/-- A path in a description, if there is one. -/
def describedPath : Option String → String
  | some path => s!"Some({Text.quotePath path})"
  | none => "None"

/-- The value of a setting in a description; the token is not shown. -/
def described (settings : Settings) : Setting → String
  | .dryRun => toString settings.dryRun
  | .outputLogLevel => s!"LogLevel({settings.outputLogLevel.number})"
  | .fileLogLevel => s!"LogLevel({settings.fileLogLevel.number})"
  | .logFile => describedPath settings.logFile
  | .jsonLogs => toString settings.jsonLogs
  | .defaultBaseBranch => Text.quote settings.defaultBaseBranch
  | .lockFile => describedPath settings.lockFile
  | .apiUrl => Text.quote settings.apiUrl
  | .token => if settings.token.isSome then "Some(SecretBox<str>([REDACTED]))" else "None"
  | .tokenVariable => Text.quote settings.tokenVariable
  | .requestTimeout => toString settings.requestTimeout
  | .forkSettle => toString settings.forkSettle
  | .forkVisibilityAttempts => toString settings.forkVisibilityAttempts
  | .branchSync => toString settings.branchSync

/-- A name with fields in braces. -/
def braced (name : String) (fields : List (String × String)) : String :=
  let body := ", ".intercalate (fields.map fun (key, value) => s!"{key}: {value}")
  name ++ " \x7b " ++ body ++ " \x7d"

/-- All settings on one line, for a message to the developer. -/
def description (settings : Settings) : String :=
  braced "Config" <| Section.all.map fun group =>
    (group.name, braced group.typeName <| group.settings.map fun setting =>
      (setting.key, settings.described setting))

/-- The value of a setting as JSON; missing files and the token are left out. -/
def json? (settings : Settings) : Setting → Option Json
  | .dryRun => some (.bool settings.dryRun)
  | .outputLogLevel => some (Json.ofNat settings.outputLogLevel.number)
  | .fileLogLevel => some (Json.ofNat settings.fileLogLevel.number)
  | .logFile => settings.logFile.map .string
  | .jsonLogs => some (.bool settings.jsonLogs)
  | .defaultBaseBranch => some (.string settings.defaultBaseBranch)
  | .lockFile => settings.lockFile.map .string
  | .apiUrl => some (.string settings.apiUrl)
  | .token => none
  | .tokenVariable => some (.string settings.tokenVariable)
  | .requestTimeout => some (Json.ofNat settings.requestTimeout)
  | .forkSettle => some (Json.ofNat settings.forkSettle)
  | .forkVisibilityAttempts => some (Json.ofNat settings.forkVisibilityAttempts)
  | .branchSync => some (Json.ofNat settings.branchSync)

/-- The settings of one section as JSON. -/
def sectionJson (settings : Settings) (group : Section) : Json :=
  Json.ofFields (group.settings.filterMap fun setting =>
    (settings.json? setting).map fun value => (setting.key, value))

/-- The settings as JSON, without the token. -/
def toJson (settings : Settings) : Json :=
  Json.ofFields (Section.all.map fun group => (group.name, settings.sectionJson group))

end Settings

end PullRequestBot
