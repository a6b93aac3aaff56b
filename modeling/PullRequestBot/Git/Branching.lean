import PullRequestBot.Git.Repository

set_option autoImplicit false

/-! # Bringing a checkout to a new branch

A checkout of a fork is prepared step by step: it is cloned or put back, the parent repository is
configured as a remote and fetched, the base branch is found or made and set to the parent's, and the
new branch is checked out or made on top of it. Every step knows at most one failure that it can
recover from; any other ends the run.

The steps only lead forward: the rank of the next one is smaller, so every run ends, and no step is
taken twice. -/

namespace PullRequestBot.Git

/-! ## Inputs and steps -/

/-- The remote that stands for the parent repository. -/
def parentRemote : String := "upstream"

/-- What a run is about. -/
structure Branching where
  originUrl : String
  directory : String
  parentUrl : String
  newBranch : String
  baseBranch : String
deriving DecidableEq, Repr

namespace Branching

/-- Where the base branch is found before it is checked out. -/
inductive BaseState where
  | localBranch
  | remoteTracking
  | absent
deriving DecidableEq, Repr

/-- The name of a base state. -/
def BaseState.name : BaseState → String
  | .localBranch => "Local"
  | .remoteTracking => "RemoteTracking"
  | .absent => "Absent"

/-- One step of a run. -/
inductive Step where
  | clone
  | resetExisting
  | addParent
  | fetch
  | resolveBase
  | checkoutBase
  | trackBase
  | createBase
  | resetToParent
  | checkoutNewBranch
  | createNewBranch
deriving DecidableEq, Repr

namespace Step

/-- How far a step is from the end of a run. -/
def rank : Step → Nat
  | clone => 10
  | resetExisting => 9
  | addParent => 8
  | fetch => 7
  | resolveBase => 6
  | checkoutBase => 5
  | trackBase => 4
  | createBase => 3
  | resetToParent => 2
  | checkoutNewBranch => 1
  | createNewBranch => 0

/-- The name of a step. -/
def name : Step → String
  | clone => "Clone"
  | resetExisting => "ResetExisting"
  | addParent => "AddUpstream"
  | fetch => "Fetch"
  | resolveBase => "ResolveBase"
  | checkoutBase => "CheckoutBase"
  | trackBase => "TrackBase"
  | createBase => "CreateBase"
  | resetToParent => "ResetToUpstream"
  | checkoutNewBranch => "CheckoutNewBranch"
  | createNewBranch => "CreateNewBranch"

/-- All steps, from the first on. -/
def all : List Step :=
  [clone, resetExisting, addParent, fetch, resolveBase, checkoutBase, trackBase, createBase,
    resetToParent, checkoutNewBranch, createNewBranch]

end Step

/-- What follows a step: a later step, or nothing at the end of a run. -/
abbrev Next (step : Step) := Option { next : Step // next.rank < step.rank }

/-- The run goes on with the given step. -/
def goTo {step : Step} (next : Step) (later : next.rank < step.rank := by decide) : Next step :=
  some ⟨next, later⟩

/-! ## Asking the repository -/

/-- A dialogue with a repository. -/
abbrev Talk (α : Type) := Dialogue Repository.Answer α

/-- A dialogue with a repository that may fail. -/
abbrev Run (α : Type) := ExceptT Failure (Dialogue Repository.Answer) α

/-- Asks the repository. -/
def ask (question : Repository.Question) : Talk (Repository.Answer question) :=
  Dialogue.question question

/-- Asks for an operation whose failure ends the run. -/
def need (answer : Talk (Except Failure Unit)) : Run Unit :=
  ExceptT.mk answer

/-- Asks for an operation whose failure the run may recover from. -/
def outcome (answer : Talk (Except Failure Unit)) : Run (Except Failure Unit) :=
  ExceptT.lift answer

/-- Tells of an event. -/
def tell (severity : Log.Severity) (message : String) (fields : List (String × Log.Value) := []) :
    Talk Unit :=
  ask (.tell ⟨severity, .branching, message, fields⟩)

/-- The parent's base branch, as the remote names it. -/
def parentBase (inputs : Branching) : String :=
  s!"{parentRemote}/{inputs.baseBranch}"

/-- Looks for the base branch in the fetched checkout. -/
def baseState (inputs : Branching) : Talk BaseState := do
  if ← ask (.refExists inputs.directory (localBranchRef inputs.baseBranch)) then
    return .localBranch
  else if ← ask (.refExists inputs.directory (trackingRef inputs.parentBase)) then
    return .remoteTracking
  else return .absent

/-! ## Steps -/

/-- Carries out one step and says which one follows. -/
def advance (inputs : Branching) : (step : Step) → Run (Next step)
  | .clone => do
    match ← outcome (ask (.clone inputs.originUrl inputs.directory)) with
    | .ok _ => return goTo .addParent
    | .error (.git (.targetNotEmpty _)) =>
      tell .info "target directory is not empty, trying to reset hard"
        [("target_dir", .plain inputs.directory)]
      return goTo .resetExisting
    | .error failure => throw failure
  | .resetExisting => do
    need (ask (.hardReset inputs.directory "HEAD"))
    return goTo .addParent
  | .addParent => do
    match ← outcome (ask (.addRemote inputs.directory parentRemote inputs.parentUrl)) with
    | .ok _ => return goTo .fetch
    | .error (.git (.remoteExists _)) =>
      tell .debug s!"remote '{parentRemote}' already exists"
      return goTo .fetch
    | .error failure => throw failure
  | .fetch => do
    need (ask (.fetchAll inputs.directory))
    return goTo .resolveBase
  | .resolveBase => do
    let state ← inputs.baseState
    tell .debug "resolved base branch"
      [("branch", .quoted inputs.baseBranch), ("state", .plain state.name)]
    match state with
    | .localBranch => return goTo .checkoutBase
    | .remoteTracking | .absent => return goTo .trackBase
  | .checkoutBase => do
    need (ask (.checkout inputs.directory inputs.baseBranch false))
    return goTo .resetToParent
  | .trackBase => do
    match ← outcome (ask (.checkout inputs.directory inputs.parentBase true)) with
    | .ok _ => return goTo .resetToParent
    | .error (.git failure) =>
      tell .info "Could not check out with git checkout --track, trying git checkout -b"
        [("error", .plain failure.message)]
      return goTo .createBase
    | .error failure => throw failure
  | .createBase => do
    need (ask (.checkoutNew inputs.directory inputs.baseBranch inputs.parentBase))
    return goTo .resetToParent
  | .resetToParent => do
    need (ask (.hardReset inputs.directory inputs.parentBase))
    return goTo .checkoutNewBranch
  | .checkoutNewBranch => do
    match ← outcome (ask (.checkout inputs.directory inputs.newBranch false)) with
    | .ok _ => return none
    | .error (.git (.branchNotFound _)) =>
      tell .info s!"branch {inputs.newBranch} does not exist, creating it"
      return goTo .createNewBranch
    | .error failure => throw failure
  | .createNewBranch => do
    need (ask (.checkoutNew inputs.directory inputs.newBranch inputs.baseBranch))
    return none

/-! ## Runs -/

/-- Goes on from a step to the end of the run; the answer lists the steps taken in order. -/
def runFrom (inputs : Branching) (step : Step) : Run (List Step) := do
  match ← inputs.advance step with
  | none => return [step]
  | some ⟨next, _⟩ => return step :: (← inputs.runFrom next)
termination_by step.rank

/-- Carries out a whole run; the answer lists the steps taken in order. -/
def run (inputs : Branching) : Run (List Step) := do
  let steps ← inputs.runFrom .clone
  tell .debug "clone-fork-and-branch complete"
    [("target_dir", .plain inputs.directory), ("branch", .quoted inputs.newBranch),
      ("steps", .number steps.length)]
  return steps

end Branching

/-- Carries out a whole run with git. -/
def Client.branch (client : Client) (inputs : Branching) : Attempt (List Branching.Step) :=
  ExceptT.mk (inputs.run.run.expandWith client.answer)

end PullRequestBot.Git
