import PullRequestBot.Hosting.Address
import PullRequestBot.Log.Level

set_option autoImplicit false

/-! # Command lines

A command line holds options that apply to every command, and at most one command. The options with a
flag of their own stand for settings; `overrides` writes them down as such, after the settings given
one by one, so that the flags win. -/

namespace PullRequestBot

namespace CommandLine

/-- The options that apply to every command. -/
structure GlobalOptions where
  /-- Files with settings besides the default one, in order. -/
  settingsFiles : List String := []
  /-- Whether the default file is left out. -/
  skipsDefaultFile : Bool := false
  dryRun : Bool := false
  logLevel : Option Log.Level := none
  fileLogLevel : Option Log.Level := none
  logFile : Option String := none
  /-- Settings given as `KEY=VALUE`. -/
  assignments : List String := []
deriving DecidableEq, Repr

/-- The settings that the options stand for. The log file's level follows the console's when it is
    not given. -/
def GlobalOptions.overrides (options : GlobalOptions) : List String :=
  let fileLevel := options.fileLogLevel.or options.logLevel
  options.assignments ++
    (options.logLevel.map fun level => s!"global/output_log_level={level.number}").toList ++
    (fileLevel.map fun level => s!"global/file_log_level={level.number}").toList ++
    (options.logFile.map fun path => s!"global/log_file={path}").toList ++
    if options.dryRun then ["global/dry_run=true"] else []

/-- Where a checkout is prepared, and from what. -/
structure Preparation where
  repository : RepositoryName
  directory : String
  branch : String
  /-- The branch to start from, if it is not the usual one. -/
  base : Option String := none
  /-- Whether the fork is expected to exist. -/
  skipsFork : Bool := false
deriving DecidableEq, Repr

/-- What is pushed, and where. -/
structure Push where
  repository : RepositoryName
  directory : String
  branch : String
  /-- Whether the fork in the bot's account is the target. -/
  toFork : Bool := false
deriving DecidableEq, Repr

/-- A pull request to open. -/
structure Proposal where
  repository : RepositoryName
  head : String
  /-- The branch to merge into, if it is not the usual one. -/
  base : Option String := none
  title : String
  body : String := ""
  /-- The file that holds the body. -/
  bodyFile : Option String := none
deriving DecidableEq, Repr

/-- A comment on a pull request. -/
structure Remark where
  repository : RepositoryName
  number : UInt64
  body : String
deriving DecidableEq, Repr

/-- What the bot is to do. -/
inductive Command where
  | version
  | options
  | prepare (preparation : Preparation)
  | push (push : Push)
  | openPullRequest (proposal : Proposal)
  | comment (remark : Remark)
  | requestsLeft
deriving DecidableEq, Repr

end CommandLine

/-- A command line. -/
structure CommandLine where
  options : CommandLine.GlobalOptions := {}
  command : Option CommandLine.Command := none
deriving DecidableEq, Repr

end PullRequestBot
