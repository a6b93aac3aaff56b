import PullRequestBot.Hosting.DryRun
import PullRequestBot.Hosting.Live

set_option autoImplicit false

/-! # Backends

A backend is live or a dry run, together with what it remembers. Every operation is the one of the
backend at hand. -/

namespace PullRequestBot

/-- A backend with what it remembers. -/
inductive Backend where
  | live (backend : Live) (login : Live.Login)
  | dryRun (backend : DryRun) (forks : DryRun.Forks)

namespace Backend

/-- An operation on a backend: it may fail, and it may change what the backend remembers. -/
abbrev Act (α : Type) := ExceptT Failure (StateT Backend (Dialogue Host.Answer)) α

/-- Whether the backend only pretends. -/
def isDryRun : Backend → Bool
  | live _ _ => false
  | dryRun _ _ => true

/-- The git client of the backend. -/
def client : Backend → Git.Client
  | live backend _ => backend.client
  | dryRun backend _ => backend.client

/-- The operation of the backend at hand. -/
def dispatch {α : Type} (onLive : Live → Live.Act α) (onDryRun : DryRun → DryRun.Act α) : Act α :=
  ExceptT.mk fun
    | live backend login => do
      let (result, login) ← (onLive backend).run.run login
      return (result, live backend login)
    | dryRun backend forks => do
      let (value, forks) ← (onDryRun backend).run forks
      return (.ok value, dryRun backend forks)

/-- An attempt with the git client of the backend. -/
def withClient {α : Type} (attempt : Git.Client → Attempt α) : Act α :=
  ExceptT.mk fun backend => do return (← (attempt backend.client).run, backend)

/-! ## Operations -/

/-- The account that the backend acts as. -/
def login : Act String :=
  dispatch (·.login) (·.login)

/-- Whether a repository exists and can be seen. -/
def repositoryExists (owner name : String) : Act Bool :=
  dispatch (·.repositoryExists owner name) (·.repositoryExists owner name)

/-- Forks a repository into the account, unless that was done before. -/
def fork (owner name : String) : Act Unit :=
  dispatch (·.fork owner name) (·.fork owner name)

/-- Pushes a branch of a checkout to a repository. -/
def push (owner name directory branch : String) : Act Unit :=
  dispatch (·.push owner name directory branch) (·.push owner name directory branch)

/-- Opens a pull request from a branch of the account. -/
def createPullRequest (owner name base head title body : String) : Act PullRequest :=
  dispatch (·.createPullRequest owner name base head title body)
    (·.createPullRequest owner name base head title body)

/-- Adds a comment to a pull request. -/
def comment (owner name : String) (number : UInt64) (body : String) : Act Unit :=
  dispatch (·.comment owner name number body) (·.comment owner name number body)

/-- How many requests are left. -/
def requestsLeft : Act Quota :=
  dispatch (·.requestsLeft) (·.requestsLeft)

/-- The address cloned as origin. -/
def originUrl (owner name : String) : Act String :=
  dispatch (·.originUrl owner name) (·.originUrl owner name)

/-- Clones the origin of a repository and brings it to a new branch on top of the parent's base
    branch. -/
def prepare (owner name directory newBranch baseBranch : String) : Act Unit := do
  let originUrl ← originUrl owner name
  let _ ← withClient fun client =>
    client.branch ⟨originUrl, directory, publicUrl owner name, newBranch, baseBranch⟩

end Backend

end PullRequestBot
