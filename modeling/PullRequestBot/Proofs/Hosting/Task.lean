import PullRequestBot.Hosting.Backend
import PullRequestBot.Proofs.Dialogue.Transcript

set_option autoImplicit false

/-! # Operations on a backend as data

What a backend can be asked to do, so that statements can range over all of it and over whole sequences of
it. `reports` carries out a sequence against a host and notes what came of each operation. -/

namespace PullRequestBot.Backend

open Dialogue (Exchange Oracle)

/-- An operation on a backend, with all that it is told. -/
inductive Task where
  | login
  | repositoryExists (owner name : String)
  | fork (owner name : String)
  | push (owner name directory branch : String)
  | createPullRequest (owner name base head title body : String)
  | comment (owner name : String) (number : UInt64) (body : String)
  | requestsLeft
  | originUrl (owner name : String)
  | prepare (owner name directory newBranch baseBranch : String)

namespace Task

/-- What an operation gives. -/
@[reducible] def Result : Task → Type
  | login | originUrl _ _ => String
  | repositoryExists _ _ => Bool
  | createPullRequest _ _ _ _ _ _ => PullRequest
  | requestsLeft => Quota
  | fork _ _ | push _ _ _ _ | comment _ _ _ _ | prepare _ _ _ _ _ => Unit

/-- Carries out an operation. -/
def run : (task : Task) → Act task.Result
  | login => Backend.login
  | repositoryExists owner name => Backend.repositoryExists owner name
  | fork owner name => Backend.fork owner name
  | push owner name directory branch => Backend.push owner name directory branch
  | createPullRequest owner name base head title body =>
    Backend.createPullRequest owner name base head title body
  | comment owner name number body => Backend.comment owner name number body
  | requestsLeft => Backend.requestsLeft
  | originUrl owner name => Backend.originUrl owner name
  | prepare owner name directory newBranch baseBranch =>
    Backend.prepare owner name directory newBranch baseBranch

end Task

/-- What came of an operation: the backend before and after it, all that was said, and the result. -/
structure Report where
  task : Task
  before : Backend
  said : List (Exchange Host.Answer)
  result : Except Failure task.Result
  after : Backend

/-- Carries out operations one after the other, each of them whatever became of the ones before. -/
def reports (host : Oracle Host.Answer) :
    List (Exchange Host.Answer) → Backend → List Task → List Report
  | _, _, [] => []
  | past, backend, task :: rest =>
    let (said, result, after) := (task.run.run.run backend).transcript host past
    ⟨task, backend, said, result, after⟩ :: reports host (past ++ said) after rest

/-- There is one report on each operation. -/
theorem map_task_reports (host : Oracle Host.Answer) (past : List (Exchange Host.Answer))
    (backend : Backend) (tasks : List Task) :
    (reports host past backend tasks).map Report.task = tasks := by
  induction tasks generalizing past backend with
  | nil => rfl
  | cons task rest ih => exact congrArg (task :: ·) (ih _ _)

/-! ## Operations on the backend at hand -/

variable {α : Type} {live : Live} {known : Live.Login} {said : List (Exchange Host.Answer)}

/-- On the live backend, an operation is that of the live backend. -/
theorem leads_dispatch_live {onLive : Live → Live.Act α} {onDryRun : DryRun → DryRun.Act α}
    {ended : Except Failure α × Backend}
    (h : ((dispatch onLive onDryRun).run.run (.live live known)).Leads said ended) :
    ∃ after, ended.2 = .live live after ∧
      ((onLive live).run.run known).Leads said (ended.1, after) := by
  have hrun : (dispatch onLive onDryRun).run.run (.live live known) =
      (onLive live).run.run known >>= fun ended => pure (ended.1, .live live ended.2) := rfl
  rw [hrun] at h
  obtain ⟨now, ⟨result, after⟩, later, rfl, hlive, hend⟩ := Dialogue.leads_bind_iff.1 h
  obtain ⟨rfl, rfl⟩ := Dialogue.leads_done_iff.1 hend
  rw [List.append_nil]
  exact ⟨after, rfl, hlive⟩

/-- On a dry run, an operation is that of the dry run, and cannot fail. -/
theorem leads_dispatch_dryRun {dryRun : DryRun} {forks : DryRun.Forks}
    {onLive : Live → Live.Act α} {onDryRun : DryRun → DryRun.Act α}
    {ended : Except Failure α × Backend}
    (h : ((dispatch onLive onDryRun).run.run (.dryRun dryRun forks)).Leads said ended) :
    ∃ value after, ended = (.ok value, .dryRun dryRun after) ∧
      ((onDryRun dryRun).run forks).Leads said (value, after) := by
  have hrun : (dispatch onLive onDryRun).run.run (.dryRun dryRun forks) =
      (onDryRun dryRun).run forks >>= fun ended => pure (.ok ended.1, .dryRun dryRun ended.2) := rfl
  rw [hrun] at h
  obtain ⟨now, ⟨value, after⟩, later, rfl, hdryRun, hend⟩ := Dialogue.leads_bind_iff.1 h
  obtain ⟨rfl, rfl⟩ := Dialogue.leads_done_iff.1 hend
  rw [List.append_nil]
  exact ⟨value, after, rfl, hdryRun⟩

/-- An attempt with the git client leaves the backend as it is. -/
theorem leads_withClient {attempt : Git.Client → Attempt α} {backend : Backend}
    {ended : Except Failure α × Backend}
    (h : ((withClient attempt).run.run backend).Leads said ended) :
    (attempt backend.client).run.Leads said ended.1 ∧ ended.2 = backend := by
  have hrun : (withClient attempt).run.run backend =
      (attempt backend.client).run >>= fun result => pure (result, backend) := rfl
  rw [hrun] at h
  obtain ⟨now, result, later, rfl, hattempt, hend⟩ := Dialogue.leads_bind_iff.1 h
  obtain ⟨rfl, rfl⟩ := Dialogue.leads_done_iff.1 hend
  rw [List.append_nil]
  exact ⟨hattempt, rfl⟩

end PullRequestBot.Backend
