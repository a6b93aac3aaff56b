import PullRequestBot.Git.Branching
import PullRequestBot.Proofs.Dialogue.Transcript

set_option autoImplicit false

/-! # What one step of branching does

A step calls one operation and passes, recovers from a failure that it knows, or ends the run with
the failure as it is; only the search for the base branch looks up to two references up instead
(`turn_of_leads`). The tables say which operation a step calls and where it leads; events are left
out. -/

namespace PullRequestBot.Git.Branching

open Dialogue (Exchange)

/-- A question together with its answer. -/
abbrev Said := Exchange Repository.Answer

/-! ## Calls -/

/-- Whether a question calls an operation of the repository; telling of an event does not. -/
def isCall : Repository.Question → Bool
  | .tell _ => false
  | _ => true

/-- The operations that were called, each with its answer. -/
def calls (said : List Said) : List Said :=
  said.filter fun exchange => isCall exchange.question

theorem calls_append (before after : List Said) :
    calls (before ++ after) = calls before ++ calls after :=
  List.filter_append ..

theorem mem_calls_iff {said : List Said} {exchange : Said} (h : isCall exchange.question = true) :
    exchange ∈ calls said ↔ exchange ∈ said := by
  rw [calls, List.mem_filter]
  exact and_iff_left h

/-! ## The tables -/

/-- The operation that a step calls, answered in the given way. -/
def called (inputs : Branching) (answer : Except Failure Unit) : Step → List Said
  | .clone => [⟨.clone inputs.originUrl inputs.directory, answer⟩]
  | .resetExisting => [⟨.hardReset inputs.directory "HEAD", answer⟩]
  | .addParent => [⟨.addRemote inputs.directory parentRemote inputs.parentUrl, answer⟩]
  | .fetch => [⟨.fetchAll inputs.directory, answer⟩]
  | .resolveBase => []
  | .checkoutBase => [⟨.checkout inputs.directory inputs.baseBranch false, answer⟩]
  | .trackBase => [⟨.checkout inputs.directory inputs.parentBase true, answer⟩]
  | .createBase => [⟨.checkoutNew inputs.directory inputs.baseBranch inputs.parentBase, answer⟩]
  | .resetToParent => [⟨.hardReset inputs.directory inputs.parentBase, answer⟩]
  | .checkoutNewBranch => [⟨.checkout inputs.directory inputs.newBranch false, answer⟩]
  | .createNewBranch =>
    [⟨.checkoutNew inputs.directory inputs.newBranch inputs.baseBranch, answer⟩]

/-- Whether the base branch is there, as a branch of the checkout. -/
def lookedUpLocal (inputs : Branching) (found : Bool) : Said :=
  ⟨.refExists inputs.directory (localBranchRef inputs.baseBranch), found⟩

/-- Whether the base branch is there, as a branch that the parent has. -/
def lookedUpTracking (inputs : Branching) (found : Bool) : Said :=
  ⟨.refExists inputs.directory (trackingRef inputs.parentBase), found⟩

/-- The step after one whose operation succeeds, if there is one. -/
def onward : Step → Option Step
  | .clone | .resetExisting => some .addParent
  | .addParent => some .fetch
  | .fetch => some .resolveBase
  | .checkoutBase | .trackBase | .createBase => some .resetToParent
  | .resetToParent => some .checkoutNewBranch
  | .resolveBase | .checkoutNewBranch | .createNewBranch => none

/-- The step that goes on after a failure, if the failing step knows it. -/
def recovery (step : Step) (failure : Failure) : Option Step :=
  match step with
  | .clone => if let .git (.targetNotEmpty _) := failure then some .resetExisting else none
  | .addParent => if let .git (.remoteExists _) := failure then some .fetch else none
  | .trackBase => if let .git _ := failure then some .createBase else none
  | .checkoutNewBranch =>
    if let .git (.branchNotFound _) := failure then some .createNewBranch else none
  | _ => none

/-! ## Turns -/

/-- What a step calls, and where that leads: to another step, to the end, or to a failure. -/
inductive Turn (inputs : Branching) : Step → List Said → Except Failure (Option Step) → Prop where
  | passed {step : Step} (searchless : step ≠ .resolveBase) :
      Turn inputs step (inputs.called (.ok ()) step) (.ok (onward step))
  | recovered {step next : Step} (failure : Failure) (known : recovery step failure = some next) :
      Turn inputs step (inputs.called (.error failure) step) (.ok (some next))
  | failed {step : Step} (failure : Failure) (searchless : step ≠ .resolveBase)
      (unknown : recovery step failure = none) :
      Turn inputs step (inputs.called (.error failure) step) (.error failure)
  | foundLocal : Turn inputs .resolveBase [inputs.lookedUpLocal true] (.ok (some .checkoutBase))
  | notLocal (tracking : Bool) :
      Turn inputs .resolveBase [inputs.lookedUpLocal false, inputs.lookedUpTracking tracking]
        (.ok (some .trackBase))

/-- The step that follows, without the proof that it is a later one. -/
def following {step : Step} : Except Failure (Next step) → Except Failure (Option Step) :=
  Except.map (Option.map Subtype.val)

/-! ## Steps take turns -/

/-- Where the answer to the operation of a step leads. -/
def reply (step : Step) : Except Failure Unit → Except Failure (Option Step)
  | .ok _ => .ok (onward step)
  | .error failure =>
    match recovery step failure with
    | some next => .ok (some next)
    | none => .error failure

theorem turn_reply {inputs : Branching} {step : Step} (hsearch : step ≠ .resolveBase)
    (answer : Except Failure Unit) :
    inputs.Turn step (inputs.called answer step) (reply step answer) := by
  cases answer with
  | ok _ => exact .passed hsearch
  | error failure =>
      rw [reply]
      split
      · next hknown => exact .recovered failure hknown
      · next hunknown => exact .failed failure hsearch hunknown

theorem reply_of_unknown {step : Step} {failure : Failure} (h : recovery step failure = none) :
    reply step (.error failure) = .error failure := by
  rw [reply, h]

/-- A step whose failures all end the run. -/
theorem turn_of_need {inputs : Branching} {step : Step} {next : Next step}
    {job : Talk (Except Failure Unit)} {said : List Said} {result : Except Failure (Next step)}
    (hsearch : step ≠ .resolveBase) (hnone : ∀ failure, recovery step failure = none)
    (hnext : next.map Subtype.val = onward step)
    (hjob : ∀ {before answer}, job.Leads before answer → calls before = inputs.called answer step)
    (h : (do need job; return next : Run (Next step)).run.Leads said result) :
    inputs.Turn step (calls said) (following result) := by
  obtain ⟨answer, hask, rfl⟩ := Dialogue.leads_run_bind_pure_iff.1 h
  have hreply : following (answer.map fun _ => next) = reply step answer := by
    cases answer with
    | ok _ =>
        rw [reply, ← hnext]
        rfl
    | error failure =>
        rw [reply_of_unknown (hnone failure)]
        rfl
  rw [hjob hask, hreply]
  exact turn_reply hsearch answer

/-- A step that goes on with what its operation answers, and calls no other one. -/
theorem turn_of_outcome {inputs : Branching} {step : Step} {job : Talk (Except Failure Unit)}
    {next : Except Failure Unit → Run (Next step)} {said : List Said}
    {result : Except Failure (Next step)} (hsearch : step ≠ .resolveBase)
    (hjob : ∀ {before answer}, job.Leads before answer → calls before = inputs.called answer step)
    (hnext : ∀ {after answer}, (next answer).run.Leads after result →
      calls after = [] ∧ following result = reply step answer)
    (h : (outcome job >>= next).run.Leads said result) :
    inputs.Turn step (calls said) (following result) := by
  obtain ⟨before, answer, after, rfl, hask, h⟩ := Dialogue.leads_run_lift_bind_iff.1 h
  obtain ⟨hquiet, hreply⟩ := hnext h
  rw [calls_append, hjob hask, hquiet, List.append_nil, hreply]
  exact turn_reply hsearch answer

/-- Telling of an event calls nothing. -/
theorem leads_tell_return {α : Type} {severity : Log.Severity} {message : String}
    {fields : List (String × Log.Value)} {value : α} {said : List Said} {result : Except Failure α}
    (h : (do tell severity message fields; return value : Run α).run.Leads said result) :
    calls said = [] ∧ result = .ok value := by
  obtain ⟨_, _, _, rfl, htell, h⟩ := Dialogue.leads_run_lift_bind_iff.1 h
  obtain ⟨rfl, rfl⟩ := Dialogue.leads_done_iff.1 h
  rw [Dialogue.leads_question_iff.1 htell]
  exact ⟨rfl, rfl⟩

/-- **The turns are all that a step can do.** -/
theorem turn_of_leads {inputs : Branching} {step : Step} {said : List Said}
    {result : Except Failure (Next step)} (h : (inputs.advance step).run.Leads said result) :
    inputs.Turn step (calls said) (following result) := by
  cases step with
  | clone | addParent | trackBase | checkoutNewBranch =>
      refine turn_of_outcome (by decide) (fun hask => ?_) (fun h => ?_) h
      · rw [Dialogue.leads_question_iff.1 hask]
        rfl
      · split at h
        · obtain ⟨rfl, rfl⟩ := Dialogue.leads_done_iff.1 h
          exact ⟨rfl, rfl⟩
        · obtain ⟨hquiet, rfl⟩ := leads_tell_return h
          exact ⟨hquiet, rfl⟩
        · next _ failure hunknown =>
            obtain ⟨rfl, rfl⟩ := Dialogue.leads_done_iff.1 h
            refine ⟨rfl, (reply_of_unknown ?_).symm⟩
            rw [recovery]
            exact hunknown
  | resetExisting | fetch | checkoutBase | createBase | resetToParent | createNewBranch =>
      refine turn_of_need (by decide) (fun _ => rfl) ?_ (fun hask => ?_) h
      · rfl
      · rw [Dialogue.leads_question_iff.1 hask]
        rfl
  | resolveBase =>
      obtain ⟨before, state, after, rfl, hstate, h⟩ := Dialogue.leads_run_lift_bind_iff.1 h
      obtain ⟨_, _, _, rfl, htell, h⟩ := Dialogue.leads_run_lift_bind_iff.1 h
      rw [Dialogue.leads_question_iff.1 htell]
      rw [baseState, Dialogue.leads_bind_iff] at hstate
      obtain ⟨_, found, _, rfl, hfound, hstate⟩ := hstate
      rw [Dialogue.leads_question_iff.1 hfound]
      cases found with
      | true =>
          obtain ⟨rfl, rfl⟩ := Dialogue.leads_done_iff.1 hstate
          obtain ⟨rfl, rfl⟩ := Dialogue.leads_done_iff.1 h
          exact .foundLocal
      | false =>
          obtain ⟨_, tracking, _, rfl, htracking, hstate⟩ := Dialogue.leads_bind_iff.1 hstate
          rw [Dialogue.leads_question_iff.1 htracking]
          cases tracking with
          | true | false =>
              obtain ⟨rfl, rfl⟩ := Dialogue.leads_done_iff.1 hstate
              obtain ⟨rfl, rfl⟩ := Dialogue.leads_done_iff.1 h
              exact .notLocal _

end PullRequestBot.Git.Branching
