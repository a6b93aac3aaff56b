import PullRequestBot.Host.SystemFailure

set_option autoImplicit false

/-! # Failures

A failure says what went wrong: in git, on the hosting platform, in the settings, or in the system.
`message` words it, and `chain` lists its message together with those of its causes, outermost
first. The texts inside git failures are masked by the runner that made them. -/

namespace PullRequestBot

/-! ## Git -/

/-- What can go wrong with a git command. -/
inductive GitFailure where
  /-- Git ended with a status other than zero. -/
  | commandFailed (text : String) (exitCode : Option Int)
  /-- The arguments were refused before any command ran. -/
  | invalidArgument (reason : String)
  /-- The target of a clone exists and is not an empty directory. -/
  | targetNotEmpty (path : String)
  /-- A clone failed for another reason. -/
  | cloneFailed (url : String)
  /-- A remote of that name is configured already. -/
  | remoteExists (name : String)
  /-- There is no local branch of that name. -/
  | branchNotFound (branch : String)
  /-- The branch to track has no remote-tracking reference. -/
  | trackingRefMissing (reference : String)
  /-- Git wrote something that cannot be interpreted. -/
  | unexpectedOutput (command output : String)
  /-- There is no git executable. -/
  | executableNotFound (name : String)
  /-- The process could not be started. -/
  | spawn (command : String) (cause : SystemFailure)
  /-- The command lock could not be acquired. -/
  | lock (path : String) (cause : SystemFailure)
deriving DecidableEq, Repr

namespace GitFailure

/-- The wording of a git failure. -/
def message : GitFailure → String
  | commandFailed text _ => text
  | invalidArgument reason => s!"invalid argument: {reason}"
  | targetNotEmpty path => s!"target directory {path} is not an empty directory"
  | cloneFailed url => s!"Error cloning repository from {url}: does the remote exist?"
  | remoteExists name => s!"remote '{name}' already exists"
  | branchNotFound branch => s!"branch {branch} does not exist"
  | trackingRefMissing reference => s!"remote tracking ref {reference} does not exist"
  | unexpectedOutput command output => s!"unexpected output from '{command}': {output}"
  | executableNotFound name => s!"executable not found: '{name}' (not in PATH)"
  | spawn command cause => s!"failed to spawn '{command}': {cause.message}"
  | lock path cause => s!"failed to acquire command lock {path}: {cause.message}"

/-- The messages of the causes below a git failure. -/
def causes : GitFailure → List String
  | spawn _ cause | lock _ cause => [cause.message]
  | _ => []

end GitFailure

/-! ## Requests -/

/-- What can go wrong with a request before its answer is understood. -/
inductive RequestFailure where
  /-- The request could not be built; nothing was sent. -/
  | builder (url : Option String) (cause : Option String)
  /-- The server could not be reached. -/
  | unreachable (url : String) (cause : SystemFailure)
  /-- The connection ended without an answer. -/
  | closed (url : String)
  /-- The answer has a status that stands for an error. -/
  | status (url : String) (code : Nat) (reason : String)
  /-- The body of the answer is not JSON. -/
  | undecodable (url : String)
deriving DecidableEq, Repr

namespace RequestFailure

/-- The end of a message that names the address asked. -/
def urlSuffix : Option String → String
  | some url => s!" for url ({url})"
  | none => ""

/-- The wording of a failed request. -/
def message : RequestFailure → String
  | builder url _ => "builder error" ++ urlSuffix url
  | unreachable url _ | closed url => "error sending request" ++ urlSuffix (some url)
  | status url code reason =>
    let side := if code < 500 then "client" else "server"
    s!"HTTP status {side} error ({code} {reason})" ++ urlSuffix (some url)
  | undecodable url => "error decoding response body" ++ urlSuffix (some url)

/-- The messages of the causes below a failed request. -/
def causes : RequestFailure → List String
  | builder _ cause => cause.toList
  | unreachable _ cause =>
    ["client error (Connect)", "tcp connect error", cause.message]
  | closed _ =>
    ["client error (SendRequest)", "connection closed before message completed"]
  | status _ _ _ | undecodable _ => []

end RequestFailure

/-! ## The hosting platform -/

/-- What can go wrong on the hosting platform. -/
inductive PlatformFailure where
  /-- The repository does not exist or cannot be seen. -/
  | repositoryNotFound (owner repo : String)
  /-- The repository has no pull request of that number. -/
  | pullRequestNotFound (owner repo : String) (number : UInt64)
  /-- The answer has a status that is no success. -/
  | failed (action target : String) (status : Nat)
  /-- The answer does not have the expected form. -/
  | unexpectedResponse (action detail : String)
  /-- The request failed. -/
  | request (failure : RequestFailure)
  /-- No token is configured for the live backend. -/
  | missingToken (name : String)
deriving DecidableEq, Repr

namespace PlatformFailure

/-- The wording of a platform failure. -/
def message : PlatformFailure → String
  | repositoryNotFound owner repo => s!"Repository {owner}/{repo} not found"
  | pullRequestNotFound owner repo number =>
    s!"Pull request {owner}/{repo}#{number.toNat} not found"
  | failed action target status => s!"{action}: {target} (HTTP status {status})"
  | unexpectedResponse action detail => s!"{action}: unexpected response: {detail}"
  | request failure => s!"request error: {failure.message}"
  | missingToken name =>
    s!"no GitHub token configured (set github.token or ${name})"

/-- The messages of the causes below a platform failure. -/
def causes : PlatformFailure → List String
  | request failure => failure.message :: failure.causes
  | _ => []

end PlatformFailure

/-! ## Settings -/

/-- What can be wrong with the settings. -/
inductive SettingsFailure where
  /-- The merged sources do not have the form of the settings. -/
  | unreadable (sources detail : String)
  /-- A value is out of its range. -/
  | invalidValue (sectionName key detail : String)
  /-- A file that has to be there is missing. -/
  | missingFile (path : String)
  /-- A file cannot be read. -/
  | unreadableFile (cause : SystemFailure)
  /-- A source is not TOML. -/
  | invalidToml (origin : Option String)
  /-- A key path is malformed. -/
  | invalidKey (text : String)
deriving DecidableEq, Repr

/-- The wording of a settings failure. -/
def SettingsFailure.message : SettingsFailure → String
  | .missingFile path => s!"configuration file \"{path}\" not found"
  | .unreadableFile cause => cause.message
  | .invalidToml (some origin) => s!"TOML parse error in {origin}"
  | .invalidToml none => "TOML parse error"
  | .invalidKey text => s!"Config error: malformed key: {text}"
  | .unreadable sources detail => s!"failed to parse config '{sources}': {detail}"
  | .invalidValue sectionName key detail =>
    s!"invalid value for '{key}' in section '[{sectionName}]': {detail}"

/-! ## All failures -/

/-- What an operation of the bot can fail with. -/
inductive Failure where
  | git (failure : GitFailure)
  | platform (failure : PlatformFailure)
  | settings (failure : SettingsFailure)
  | system (failure : SystemFailure)
  | other (text : String)
deriving DecidableEq, Repr

namespace Failure

/-- The wording of a failure. -/
def message : Failure → String
  | git failure => s!"git error: {failure.message}"
  | platform failure => s!"platform error: {failure.message}"
  | settings failure => s!"config error: {failure.message}"
  | system failure => s!"io error: {failure.message}"
  | other text => text

/-- The message of a failure and those of its causes, outermost first. -/
def chain : Failure → List String
  | git failure => [(git failure).message, failure.message] ++ failure.causes
  | platform failure => [(platform failure).message, failure.message] ++ failure.causes
  | settings failure => [(settings failure).message, failure.message]
  | system failure => [(system failure).message]
  | other text => [text]

/-- The git failure, if it is one. -/
def git? : Failure → Option GitFailure
  | git failure => some failure
  | _ => none

/-- The platform failure, if it is one. -/
def platform? : Failure → Option PlatformFailure
  | platform failure => some failure
  | _ => none

end Failure

end PullRequestBot
