import PullRequestBot.Git.Branching
import PullRequestBot.Hosting.Address
import PullRequestBot.Hosting.PullRequest.Reader
import PullRequestBot.Hosting.PullRequest.Trim
import PullRequestBot.Hosting.Quota
import PullRequestBot.Json.Reader
import PullRequestBot.Web.Url.Reader

set_option autoImplicit false

/-! # The live backend

Calls on the platform are requests to its REST interface; pushes are git commands with the token in
the address. The login of the account is asked for once and then remembered: it is the state of the
backend, and an operation that fails to learn it leaves nothing behind. -/

namespace PullRequestBot

open Host (ask tell)

/-! ## Backends and what they remember -/

/-- The public REST interface. -/
def defaultApiUrl : String := "https://api.github.com"

/-- The version of the bot. -/
def version : String := "0.1.0"

/-- Waits that let the platform catch up with a new fork, in seconds. -/
structure ForkTiming where
  /-- After a fork was asked for, and between two looks for it. -/
  settle : Nat := 5
  /-- How often to look for a new fork. -/
  attempts : Nat := 1
  /-- After the default branch of a fork was renamed. -/
  branchSync : Nat := 5
deriving DecidableEq, Repr

/-- Works on the platform through its REST interface. -/
structure Live where
  apiUrl : String := defaultApiUrl
  token : String
  client : Git.Client
  timing : ForkTiming := {}
  /-- Seconds to wait for a response. -/
  timeout : Nat := 30

namespace Live

/-- A text without the slashes at its end. -/
def dropFinalSlashes (url : String) : String :=
  String.ofList (url.toList.reverse.dropWhile (· = '/')).reverse

/-- The backend of a token. The token is masked in whatever git does from here on. -/
def create (token apiUrl : String) (runner : Git.Runner) (timing : ForkTiming) (timeout : Nat) :
    Live where
  apiUrl := dropFinalSlashes apiUrl
  token := token
  client := ⟨runner.hide token⟩
  timing := timing
  timeout := timeout

/-- The login of the account, once it is known. -/
abbrev Login := Option String

/-- An operation of the live backend: it may fail, and it may learn the login. -/
abbrev Act (α : Type) := ExceptT Failure (StateT Login (Dialogue Host.Answer)) α

/-! ## Requests -/

/-- Why a request cannot go to an address. -/
def badScheme : String := "URL scheme is not allowed"

/-- A response together with the address it answers. -/
structure Received where
  url : String
  response : Http.Response

/-- The request for a path below the interface's address. Credentials in the address are told first;
    the token is told in any case. -/
def request (live : Live) (method : Http.Method) (path : String) (body : Option Json) :
    Except RequestFailure Http.Request := do
  let address ← match Url.read (live.apiUrl ++ path) with
    | .ok address => pure address
    | .error failure => throw (.builder none (some failure.message))
  if !address.hasServer then throw (.builder (some address.text) (some badScheme))
  let token := Http.tokenAuthorization live.token
  if !Http.isSendable token then throw (.builder none (some "failed to parse header value"))
  let url := address.withoutCredentials
  if !url.hasRequests then throw (.builder (some url.text) (some badScheme))
  if !url.isSendable then
    throw (.builder (some url.text) (some "Parsed Url is not a valid Uri"))
  return {
    method := method
    url := url
    authorizations := (address.credentials?.map Http.basicAuthorization).toList ++ [token]
    accept := "application/vnd.github+json"
    agent := s!"feedstock-bot/{version}"
    body := body }

/-- Sends a request and waits for the response. -/
def exchange (live : Live) (method : Http.Method) (path : String) (body : Option Json) :
    Job (Except RequestFailure Received) :=
  match live.request method path body with
  | .error failure => return .error failure
  | .ok request => do
    match ← ask (.send request live.timeout) with
    | .ok response => return .ok ⟨request.url.text, response⟩
    | .error (.unreachable cause) => return .error (.unreachable request.url.text cause)
    | .error .closed => return .error (.closed request.url.text)

/-- Sends a request; that no response comes is a failure. -/
def send (live : Live) (method : Http.Method) (path : String) (body : Option Json := none) :
    Attempt Received := do
  match ← ExceptT.lift (live.exchange method path body) with
  | .ok received => return received
  | .error failure => Attempt.failPlatform (.request failure)

/-- The body of a response as JSON. -/
def bodyJson (received : Received) : Except RequestFailure Json :=
  match (Text.Utf8.decode received.response.body).bind Json.read with
  | some value => .ok value
  | none => .error (.undecodable received.url)

/-- The body of a response as JSON, for the given purpose. -/
def expectJson (received : Received) (action : String) : Attempt Json :=
  match bodyJson received with
  | .ok value => return value
  | .error failure => Attempt.failPlatform (.unexpectedResponse action failure.message)

/-- The failure of a call because of the status of its response. -/
def failed {α : Type} (action target : String) (status : Nat) : Attempt α := do
  tell .warn .live s!"{action}: {target}" [("status", .number status)]
  Attempt.failPlatform (.failed action target status)

/-- A member of a JSON object that is a string. -/
def stringField (value : Json) (key : String) : Option String :=
  (value.get? key).bind Json.string?

/-! ## Repositories -/

/-- The path of a repository. -/
def repositoryPath (owner name : String) : String :=
  s!"/repos/{owner}/{name}"

/-- Whether a repository exists and can be seen. -/
def checkRepository (live : Live) (owner name : String) : Attempt Bool := do
  let received ← live.send .get (repositoryPath owner name)
  let status := received.response.status
  if status = 404 then return false
  else if received.response.isSuccess then return true
  else failed "Could not check repository" s!"{owner}/{name}" status

/-- What the platform tells about a repository, which has to exist. -/
def repository (live : Live) (owner name : String) : Attempt Json := do
  let action := "Could not read repository"
  let received ← live.send .get (repositoryPath owner name)
  let status := received.response.status
  if status = 404 then Attempt.failPlatform (.repositoryNotFound owner name)
  else if received.response.isSuccess then expectJson received action
  else failed action s!"{owner}/{name}" status

/-- The default branch of a repository. -/
def defaultBranch (live : Live) (owner name : String) : Attempt String := do
  let value ← live.repository owner name
  match stringField value "default_branch" with
  | some branch => return branch
  | none =>
    Attempt.failPlatform (.unexpectedResponse
      s!"Could not read default branch of {owner}/{name}" "missing default_branch")

/-! ## Forks -/

/-- Looks for a new fork, at most as often as attempts are left; `attempt` counts from one. -/
def awaitFork (live : Live) (login name : String) : (left attempt : Nat) → Attempt Unit
  | 0, _ =>
    tell .warn .live s!"fork {login}/{name} not visible yet"
      [("attempts", .number live.timing.attempts)]
  | left + 1, attempt => do
    if ← live.checkRepository login name then
      tell .debug .live "fork is visible" [("attempt", .number attempt)]
    else
      if left ≠ 0 then ask (.pause live.timing.settle)
      awaitFork live login name left (attempt + 1)

/-- Asks for a fork of a repository, which has to exist, and waits until it can be seen. -/
def createFork (live : Live) (owner name login : String) : Attempt Unit := do
  let _ ← live.repository owner name
  tell .info .live s!"Creating fork of {owner}/{name} for user {login}"
  let received ← live.send .post s!"{repositoryPath owner name}/forks"
  if !received.response.isSuccess then
    failed "Could not create fork" s!"{owner}/{name}" received.response.status
  ask (.pause live.timing.settle)
  live.awaitFork login name live.timing.attempts 1

/-- Gives the default branch of the fork the name that the parent's has. -/
def syncDefaultBranch (live : Live) (owner name login : String) : Attempt Unit := do
  let wanted ← live.defaultBranch owner name
  let present ← live.defaultBranch login name
  if wanted = present then
    tell .debug .live "default branch already in sync" [("branch", .plain present)]
  else
    tell .info .live
      s!"Syncing default branch of {login}/{name} from {present} to {wanted}"
    let received ← live.send .post s!"{repositoryPath login name}/branches/{present}/rename"
      (some (.object [("new_name", .string wanted)]))
    if !received.response.isSuccess then
      failed "Could not sync default branch" s!"{login}/{name}" received.response.status
    ask (.pause live.timing.branchSync)

/-- Forks a repository into the account of the given login, unless that was done before, and aligns
    the default branches. -/
def forkAs (live : Live) (owner name login : String) : Attempt Unit := do
  if ← live.checkRepository login name then
    tell .debug .live s!"fork {login}/{name} already exists"
  else live.createFork owner name login
  live.syncDefaultBranch owner name login

/-! ## The account -/

/-- Asks for the login of the account. -/
def fetchLogin (live : Live) : Attempt String := do
  let action := "Could not fetch authenticated user"
  let received ← live.send .get "/user"
  if !received.response.isSuccess then
    failed action "/user" received.response.status
  let value ← expectJson received action
  match stringField value "login" with
  | some login =>
    tell .debug .live "resolved authenticated user" [("user", .quoted login)]
    return login
  | none => Attempt.failPlatform (.unexpectedResponse action "missing login")

/-- An attempt that does not need the login. -/
def plainly {α : Type} (attempt : Attempt α) : Act α :=
  ExceptT.mk fun login => do return (← attempt.run, login)

/-- The login of the account: asked for once, then remembered. -/
def login (live : Live) : Act String := do
  match ← get with
  | some login => return login
  | none =>
    let login ← plainly live.fetchLogin
    set (some login)
    return login

/-! ## Pull requests -/

/-- Adds a response header to the body of the response, where it can be read. -/
def addHeader (response : Http.Response) (name : String) (value : Json) : Json :=
  match response.header? name with
  | some text => value.setField name (.string text)
  | none => value

/-- The record of a response that describes a pull request; entity tag and modification date come
    from the headers. -/
def readPullRequest (response : Http.Response) (value : Json) :
    Except Json.DecodeFailure PullRequest :=
  PullRequest.ofResponse
    (PullRequest.trim (addHeader response "Last-Modified" (addHeader response "ETag" value)))

/-- Opens a pull request from a branch of the given account. -/
def openPullRequest (live : Live) (owner name base head title body login : String) :
    Attempt PullRequest := do
  let action := "Could not create pull request"
  let headLabel := s!"{login}:{head}"
  let received ← live.send .post s!"{repositoryPath owner name}/pulls"
    (some (.object [("base", .string base), ("body", .string body), ("head", .string headLabel),
      ("title", .string title)]))
  if received.response.status ≠ 201 then
    failed action s!"{owner}/{name}" received.response.status
  let value ← expectJson received action
  match readPullRequest received.response value with
  | .error failure => Attempt.failPlatform (.unexpectedResponse action failure.message)
  | .ok record =>
    let pull := (record.inRepository owner name).withText title body
    tell .info .live s!"created pull request {headLabel} -> {owner}:{base}"
      [("number", .number pull.number.toNat), ("url", .plain pull.htmlUrl)]
    return pull

/-- Adds a comment to a pull request. -/
def addComment (live : Live) (owner name : String) (number : UInt64) (body : String) :
    Attempt Unit := do
  let _ ← live.repository owner name
  let target := s!"{owner}/{name}#{number.toNat}"
  let seen ← live.send .get s!"{repositoryPath owner name}/pulls/{number.toNat}"
  if seen.response.status = 404 then
    Attempt.failPlatform (.pullRequestNotFound owner name number)
  if !seen.response.isSuccess then
    failed "Could not read pull request" target seen.response.status
  let received ← live.send .post s!"{repositoryPath owner name}/issues/{number.toNat}/comments"
    (some (.object [("body", .string body)]))
  if received.response.status ≠ 201 then
    failed "Could not comment on pull request" target received.response.status
  tell .info .live s!"commented on pull request {target}"

/-! ## Quota -/

/-- The time at which the quota is reset, if it can be told. -/
def resetTime (value : Json) : Option Timestamp :=
  ((value.getPath? ["resources", "core", "reset"]).bind Json.integer?).bind Timestamp.ofSeconds?

/-- The quota in the body of the platform's answer. -/
def readQuota (value : Json) : Job Quota := do
  match (value.getPath? ["resources", "core", "remaining"]).bind Json.natural? with
  | none =>
    tell .warn .live "API error while parsing rate limit: unexpected response schema"
    return .unknown
  | some remaining =>
    if remaining ≠ 0 then return .finite remaining none
    else
      match resetTime value with
      | some time =>
        tell .info .live
          s!"GitHub API requests exhausted, will reset at {time.wholeText}"
        return .finite remaining (some time)
      | none =>
        tell .warn .live "GitHub API error while fetching rate limit reset time"
        return .finite remaining none

/-- The body of the platform's answer about the quota. -/
def fetchQuota (live : Live) : Job (Except RequestFailure Json) := do
  match ← live.exchange .get "/rate_limit" none with
  | .error failure => return .error failure
  | .ok received =>
    if received.response.isFailure then
      let status := received.response.status
      return .error (.status received.url status (Http.reasonPhrase status))
    else return bodyJson received

/-- The quota; whatever goes wrong, it is unknown. -/
def quota (live : Live) : Job Quota := do
  match ← live.fetchQuota with
  | .ok value => readQuota value
  | .error failure =>
    let message :=
      match failure with
      | .undecodable _ => "API error while parsing rate limit"
      | _ => "API error while fetching rate limit"
    tell .warn .live message [("error", .plain failure.message)]
    return .unknown

/-! ## Operations -/

/-- Whether a repository exists and can be seen. -/
def repositoryExists (live : Live) (owner name : String) : Act Bool :=
  plainly (live.checkRepository owner name)

/-- Forks a repository into the account, unless that was done before, and aligns the default
    branches. -/
def fork (live : Live) (owner name : String) : Act Unit := do
  let login ← live.login
  plainly (live.forkAs owner name login)

/-- Pushes a branch of a checkout to a repository. -/
def push (live : Live) (owner name directory branch : String) : Act Unit := plainly do
  live.client.push directory (remoteUrl owner name .withToken (some live.token)) branch
  tell .info .live "pushed"
    [("repository", .plain s!"{owner}/{name}"), ("branch", .quoted branch)]

/-- Opens a pull request from a branch of the account. -/
def createPullRequest (live : Live) (owner name base head title body : String) :
    Act PullRequest := do
  let _ ← plainly (live.repository owner name)
  let login ← live.login
  plainly (live.openPullRequest owner name base head title body login)

/-- Adds a comment to a pull request. -/
def comment (live : Live) (owner name : String) (number : UInt64) (body : String) : Act Unit :=
  plainly (live.addComment owner name number body)

/-- How many requests are left. -/
def requestsLeft (live : Live) : Act Quota :=
  plainly (ExceptT.lift live.quota)

/-- The address cloned as origin: the fork of the account. -/
def originUrl (live : Live) (_owner name : String) : Act String := do
  return publicUrl (← live.login) name

end Live

end PullRequestBot
