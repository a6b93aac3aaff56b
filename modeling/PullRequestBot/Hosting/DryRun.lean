import PullRequestBot.Git.Branching
import PullRequestBot.Hosting.Address
import PullRequestBot.Hosting.PullRequest.Basic
import PullRequestBot.Hosting.Quota

set_option autoImplicit false

/-! # The dry-run backend

Calls on the platform are told of instead of sent; git still runs. The forks asked for are remembered:
they are the state of the backend. No operation on the platform fails. -/

namespace PullRequestBot

open Host (ask tell)

/-! ## Backends and what they remember -/

/-- The account that the dry-run backend pretends to be. -/
def dryRunLogin : String := "auto-tick-bot-dry-run"

/-- Repositories of other owners that are known to exist. -/
def knownRepositories : List String := [
  "conda-forge/pytest-feedstock",
  "conda-forge/duckdb-feedstock",
  "conda-forge/polars-feedstock",
  "regro/cf-scripts",
  "regro/cf-graph-countyfair"]

/-- Pretends to work on the platform. -/
structure DryRun where
  client : Git.Client
  /-- The repositories of other owners that exist, owner and name with a slash between them. -/
  known : List String := knownRepositories

namespace DryRun

/-- Counts another repository as existing. -/
def withKnown (dryRun : DryRun) (owner name : String) : DryRun :=
  { dryRun with known := s!"{owner}/{name}" :: dryRun.known }

/-- The names of the forks asked for. -/
abbrev Forks := List String

/-- An operation of the dry-run backend: it may learn of a fork. -/
abbrev Act (α : Type) := StateT Forks (Dialogue Host.Answer) α

/-! ## Operations -/

/-- The account. -/
def login (_dryRun : DryRun) : Act String :=
  return dryRunLogin

/-- Whether a repository exists: a known one, or a fork asked for. -/
def repositoryExists (dryRun : DryRun) (owner name : String) : Act Bool := do
  if owner = dryRunLogin then return (← get).contains name
  else return dryRun.known.contains s!"{owner}/{name}"

/-- Remembers the fork of a repository. -/
def fork (_dryRun : DryRun) (owner name : String) : Act Unit := do
  if (← get).contains name then
    tell .debug .dryRun s!"Fork of {name} already exists"
  else
    tell .info .dryRun
      s!"Dry Run: Creating fork of {owner}/{name} for user {dryRunLogin}"
    modify (name :: ·)
  tell .info .dryRun s!"Dry Run: Syncing default branch of {owner}/{name}"

/-- Tells of a push. -/
def push (_dryRun : DryRun) (owner name directory branch : String) : Act Unit :=
  tell .info .dryRun
    s!"Dry Run: Pushing changes from {directory} to {owner}/{name} on branch {branch}"

/-- The record of a pull request that is only pretended. -/
def pretendedPullRequest (owner name base head title body : String) (now : Timestamp) :
    PullRequest where
  owner := owner
  repo := name
  etag := some "GITHUB_PR_ETAG"
  lastModified := some now.headerText
  id := 13371337
  number := 1337
  htmlUrl := s!"https://github.com/{owner}/{name}/pulls/1337"
  state := .opened
  title := title
  body := some body
  createdAt := some now
  updatedAt := some now
  mergeable := some true
  head := ⟨head, some s!"{dryRunLogin}:{head}", some name⟩
  base := ⟨base, none, some name⟩

/-- Tells of a pull request. -/
def createPullRequest (_dryRun : DryRun) (owner name base head title body : String) :
    Act PullRequest := do
  tell .info .dryRun <| "\n".intercalate [
    "Dry Run: Create Pull Request",
    s!"Title: \"{title}\"",
    s!"Target Repository: {owner}/{name}",
    s!"Branches: {dryRunLogin}:{head} -> {owner}:{base}",
    "Body:",
    body]
  return pretendedPullRequest owner name base head title body (← ask .now)

/-- Tells of a comment. -/
def comment (_dryRun : DryRun) (owner name : String) (number : UInt64) (body : String) :
    Act Unit :=
  tell .info .dryRun <| "\n".intercalate [
    "Dry Run: Comment on Pull Request",
    s!"Pull Request: {owner}/{name}#{number.toNat}",
    "Comment:",
    body]

/-- Nothing is sent, so there is no limit. -/
def requestsLeft (_dryRun : DryRun) : Act Quota :=
  return .infinite

/-- The address cloned as origin: a pretended fork cannot be cloned, the parent can. -/
def originUrl (_dryRun : DryRun) (owner name : String) : Act String :=
  return publicUrl owner name

end DryRun

end PullRequestBot
