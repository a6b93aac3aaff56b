import PullRequestBot.Proofs.Git.Checkout
import PullRequestBot.Proofs.Result

set_option autoImplicit false

/-! # Branching moves no branch but its own

Whatever operations fail, a run leaves every branch of the checkout where it was, except that it may set
the base branch to the parent's; and a run that ends well ends on the new branch, with the base branch
where the parent has it (`run_keeps_branches`). The dangerous step is the hard reset: it moves the
branch that is checked out, which `Ready` says to be the base branch at that point. -/

namespace PullRequestBot.Git.Branching

open Dialogue (Exchange Keeps Oracle)

variable {Commit : Type} {inputs : Branching} {start now : Checkout Commit} {step : Step}
variable {names : Checkout Commit → String → Option Commit}

/-! ## Assertions about a checkout -/

/-- The base branch is where the parent has it. -/
def AtParent (inputs : Branching) (now : Checkout Commit) : Prop :=
  ∃ tip, now.tracking inputs.parentBase = some tip ∧ now.branches inputs.baseBranch = some tip

/-- All branches are where they were at the start, but the base branch may be where the parent has it. -/
structure Undisturbed (inputs : Branching) (start now : Checkout Commit) : Prop where
  others : ∀ branch commit, branch ≠ inputs.baseBranch →
    start.branches branch = some commit → now.branches branch = some commit
  base : ∀ commit, start.branches inputs.baseBranch = some commit →
    now.branches inputs.baseBranch = some commit ∨ inputs.AtParent now

/-- What holds before a step is carried out. -/
def Ready (inputs : Branching) (start : Checkout Commit) : Step → Checkout Commit → Prop
  | .resetToParent, now => start.Stays now ∧ now.current = some inputs.baseBranch
  | .checkoutNewBranch, now => inputs.Undisturbed start now ∧ inputs.AtParent now
  | .createNewBranch, now =>
    inputs.Undisturbed start now ∧ inputs.AtParent now ∧ now.branches inputs.newBranch = none
  | _, now => start.Stays now

/-- What holds where a run has ended well. The new branch was made only if there was none of its name,
    and then at what the base branch names. -/
structure Arrived (inputs : Branching) (names : Checkout Commit → String → Option Commit)
    (start : Checkout Commit) (steps : List Step) (now : Checkout Commit) : Prop where
  current : now.current = some inputs.newBranch
  base : inputs.AtParent now
  made : .createNewBranch ∈ steps → inputs.newBranch ≠ inputs.baseBranch ∧
    start.branches inputs.newBranch = none ∧
    ∃ earlier commit, names earlier inputs.baseBranch = some commit ∧
      now = (earlier.put inputs.newBranch commit).enter inputs.newBranch

/-- What holds after a step: readiness for the next one, or arrival. -/
def Onward (inputs : Branching) (names : Checkout Commit → String → Option Commit)
    (start : Checkout Commit) (step : Step) :
    Except Failure (Next step) → Checkout Commit → Prop
  | .ok (some next), now => inputs.Ready start next.val now
  | .ok none, now => inputs.Arrived names start [step] now
  | .error _, _ => True

theorem undisturbed_of_stays (h : start.Stays now) : inputs.Undisturbed start now :=
  ⟨fun branch commit _ => h branch commit, fun commit hcommit => Or.inl (h _ commit hcommit)⟩

theorem Ready.undisturbed (h : inputs.Ready start step now) : inputs.Undisturbed start now := by
  cases step with
  | resetToParent => exact undisturbed_of_stays h.1
  | checkoutNewBranch | createNewBranch => exact h.1
  | _ => exact undisturbed_of_stays h

theorem AtParent.stays {after : Checkout Commit} (h : inputs.AtParent now) (hstays : now.Stays after)
    (htracking : after.tracking = now.tracking) : inputs.AtParent after := by
  obtain ⟨tip, htip, hbase⟩ := h
  refine ⟨tip, ?_, hstays _ tip hbase⟩
  rw [htracking]
  exact htip

theorem Undisturbed.stays {after : Checkout Commit} (h : inputs.Undisturbed start now)
    (hstays : now.Stays after) (hbase : inputs.AtParent after) : inputs.Undisturbed start after where
  others branch commit hne hcommit := hstays branch commit (h.others branch commit hne hcommit)
  base _ _ := Or.inr hbase

/-- Setting the base branch to the parent's disturbs no other branch. -/
theorem ready_of_reset {tip : Commit} (h : start.Stays now)
    (htip : now.tracking inputs.parentBase = some tip) :
    inputs.Ready start .checkoutNewBranch (now.put inputs.baseBranch tip) := by
  have hbase : inputs.AtParent (now.put inputs.baseBranch tip) :=
    ⟨tip, htip, Checkout.put_branches_self ..⟩
  refine ⟨⟨fun branch commit hne hcommit => ?_, fun _ _ => Or.inr hbase⟩, hbase⟩
  rw [Checkout.put_branches_of_ne now tip hne]
  exact h branch commit hcommit

/-- A missing branch was missing at the start, and it is not the base branch. -/
theorem Ready.missing (h : inputs.Ready start .createNewBranch now) :
    inputs.newBranch ≠ inputs.baseBranch ∧ start.branches inputs.newBranch = none := by
  obtain ⟨hundisturbed, ⟨tip, -, htip⟩, hnone⟩ := h
  have hne : inputs.newBranch ≠ inputs.baseBranch := by
    intro heq
    rw [← heq, hnone] at htip
    exact absurd htip nofun
  refine ⟨hne, Option.eq_none_iff_forall_ne_some.2 fun commit hcommit => ?_⟩
  have hthere := hundisturbed.others inputs.newBranch commit hne hcommit
  rw [hnone] at hthere
  exact absurd hthere nofun

/-- Making the missing branch is an arrival. -/
theorem arrived_of_made {commit : Commit} (h : inputs.Ready start .createNewBranch now)
    (hnames : names now inputs.baseBranch = some commit) :
    inputs.Undisturbed start ((now.put inputs.newBranch commit).enter inputs.newBranch) ∧
      inputs.Arrived names start [.createNewBranch]
        ((now.put inputs.newBranch commit).enter inputs.newBranch) := by
  obtain ⟨hne, hnone⟩ := h.missing
  obtain ⟨hundisturbed, hbase, habsent⟩ := h
  have hstays := Checkout.stays_put commit habsent
  have hbase' : inputs.AtParent ((now.put inputs.newBranch commit).enter inputs.newBranch) :=
    hbase.stays hstays rfl
  refine ⟨hundisturbed.stays hstays hbase', rfl, hbase', fun _ => ⟨hne, hnone, ?_⟩⟩
  exact ⟨now, commit, hnames, rfl⟩

/-! ## Steps -/

/-- The assertions about the rest of a step. -/
abbrev StepKeeps (inputs : Branching) (names : Checkout Commit → String → Option Commit)
    (start : Checkout Commit) (step : Step) (job : Run (Next step)) (now : Checkout Commit) : Prop :=
  job.run.Keeps (Checkout.Allows names) (inputs.Undisturbed start)
    (inputs.Onward names start step) now

theorem keeps_goTo {next : Step} {later : next.rank < step.rank} (h : inputs.Ready start next now) :
    inputs.StepKeeps names start step (return goTo next later) now :=
  ⟨h.undisturbed, h⟩

theorem keeps_throw {failure : Failure} (h : inputs.Undisturbed start now) :
    inputs.StepKeeps names start step (throw failure) now :=
  ⟨h, trivial⟩

theorem keeps_tell {severity : Log.Severity} {message : String}
    {fields : List (String × Log.Value)} {job : Run (Next step)}
    (hnow : inputs.Undisturbed start now) (h : inputs.StepKeeps names start step job now) :
    inputs.StepKeeps names start step (do tell severity message fields; job) now := by
  refine Keeps.run_question_bind hnow fun _ after hafter => ?_
  rw [show after = now from hafter]
  exact h

/-- An operation that fails leaves the step before it as it was. -/
theorem Ready.failed {after : Checkout Commit} {failure : Failure}
    (h : inputs.Ready start step now) (hafter : after = now) :
    inputs.StepKeeps names start step (throw failure) after :=
  hafter ▸ keeps_throw h.undisturbed

/-- Looking for the base branch changes nothing. -/
theorem baseState_keeps (h : start.Stays now) :
    inputs.baseState.Keeps (Checkout.Allows names) (inputs.Undisturbed start)
      (fun _ now => start.Stays now) now := by
  have hnow : inputs.Undisturbed start now := undisturbed_of_stays h
  refine ⟨hnow, fun found after hallows => ?_⟩
  obtain rfl : after = now := hallows.1
  cases found with
  | true => exact ⟨hnow, h⟩
  | false =>
      refine ⟨hnow, fun tracking later hallows => ?_⟩
      obtain rfl : later = after := hallows.1
      cases tracking with
      | true | false => exact ⟨hnow, h⟩

/-- **Every step keeps the assertions**, and makes ready for the next one. -/
theorem advance_keeps
    (hparent : ∀ (checkout : Checkout Commit) (branch : String),
      names checkout (parentBranch branch) = checkout.tracking (parentBranch branch))
    (h : inputs.Ready start step now) :
    inputs.StepKeeps names start step (inputs.advance step) now := by
  cases step with
  | clone =>
      refine Keeps.run_question_bind h.undisturbed fun answer after hallows => ?_
      split
      · exact keeps_goTo (Checkout.Stays.trans h hallows)
      · obtain rfl : after = now := hallows
        exact keeps_tell h.undisturbed (keeps_goTo h)
      · exact h.failed hallows
  | resetExisting =>
      refine ⟨h.undisturbed, fun answer after hallows => ?_⟩
      cases answer with
      | ok _ =>
          obtain rfl : after = now := Checkout.Allows.hardReset_head hallows
          exact keeps_goTo h
      | error failure => exact h.failed hallows
  | addParent =>
      refine Keeps.run_question_bind h.undisturbed fun answer after hallows => ?_
      split
      · exact keeps_goTo (Checkout.Stays.trans h hallows.1)
      · obtain rfl : after = now := hallows
        exact keeps_tell h.undisturbed (keeps_goTo h)
      · exact h.failed hallows
  | fetch =>
      refine ⟨h.undisturbed, fun answer after hallows => ?_⟩
      cases answer with
      | ok _ => exact keeps_goTo (Checkout.Stays.trans h hallows)
      | error failure => exact h.failed hallows
  | resolveBase =>
      refine Keeps.run_lift_bind (baseState_keeps h) fun state now _ h => ?_
      refine keeps_tell (undisturbed_of_stays h) ?_
      cases state with
      | localBranch | remoteTracking | absent => exact keeps_goTo h
  | checkoutBase =>
      refine ⟨h.undisturbed, fun answer after hallows => ?_⟩
      cases answer with
      | ok _ => exact keeps_goTo ⟨Checkout.Stays.trans h hallows.1, hallows.2.2⟩
      | error failure => exact h.failed hallows.1
  | trackBase =>
      refine Keeps.run_question_bind h.undisturbed fun answer after hallows => ?_
      split
      · obtain ⟨habsent, commit, -, rfl⟩ := hallows inputs.baseBranch rfl
        exact keeps_goTo ⟨Checkout.Stays.trans h (Checkout.stays_put commit habsent), rfl⟩
      · obtain rfl : after = now := hallows
        exact keeps_tell h.undisturbed (keeps_goTo h)
      · exact h.failed hallows
  | createBase =>
      refine ⟨h.undisturbed, fun answer after hallows => ?_⟩
      cases answer with
      | ok _ =>
          obtain ⟨habsent, commit, -, rfl⟩ := hallows
          exact keeps_goTo ⟨Checkout.Stays.trans h (Checkout.stays_put commit habsent), rfl⟩
      | error failure => exact h.failed hallows
  | resetToParent =>
      refine ⟨h.undisturbed, fun answer after hallows => ?_⟩
      cases answer with
      | ok _ =>
          -- whichever way led here, the branch that the reset moves is the base branch
          obtain ⟨hstays, hcurrent⟩ := h
          obtain ⟨tip, htip, rfl⟩ :=
            Checkout.Allows.hardReset hallows (parentBranch_ne_head inputs.baseBranch) hcurrent
          have htracking : now.tracking inputs.parentBase = some tip :=
            (hparent now inputs.baseBranch).symm.trans htip
          exact keeps_goTo (ready_of_reset hstays htracking)
      | error failure => exact h.failed hallows
  | checkoutNewBranch =>
      refine Keeps.run_question_bind h.undisturbed fun answer after hallows => ?_
      split
      · obtain ⟨hstays, htracking, hcurrent⟩ := hallows
        have hbase := h.2.stays hstays htracking
        exact ⟨h.1.stays hstays hbase, hcurrent, hbase, fun hmade => absurd hmade (by decide)⟩
      · next branch =>
          obtain ⟨rfl, habsent⟩ := hallows
          exact keeps_tell h.undisturbed (keeps_goTo ⟨h.1, h.2, habsent branch rfl⟩)
      · exact h.failed hallows.1
  | createNewBranch =>
      refine ⟨h.undisturbed, fun answer after hallows => ?_⟩
      cases answer with
      | ok _ =>
          obtain ⟨-, commit, hnames, rfl⟩ := hallows
          exact arrived_of_made h hnames
      | error failure => exact h.failed hallows

/-! ## Runs -/

theorem Arrived.cons {steps : List Step} (h : inputs.Arrived names start steps now)
    (hstep : step ≠ .createNewBranch) : inputs.Arrived names start (step :: steps) now where
  current := h.current
  base := h.base
  made hmem := h.made ((List.mem_cons.1 hmem).resolve_left hstep.symm)

/-- A new branch that was made starts where the base branch is, if that is what its name stands for. -/
theorem Arrived.made_at_base {steps : List Step} (h : inputs.Arrived names start steps now)
    (hbase : ∀ (checkout : Checkout Commit) (tip : Commit),
      checkout.branches inputs.baseBranch = some tip → names checkout inputs.baseBranch = some tip)
    (hmade : .createNewBranch ∈ steps) :
    now.branches inputs.newBranch = now.branches inputs.baseBranch := by
  obtain ⟨hne, -, earlier, commit, hnames, rfl⟩ := h.made hmade
  obtain ⟨tip, -, htip⟩ := h.base
  rw [Checkout.enter_branches, Checkout.put_branches_of_ne earlier commit hne.symm] at htip ⊢
  rw [Checkout.put_branches_self, htip, ← hnames, hbase earlier tip htip]

/-- What holds where a run has ended. -/
def Finished (inputs : Branching) (names : Checkout Commit → String → Option Commit)
    (start : Checkout Commit) : Except Failure (List Step) → Checkout Commit → Prop
  | .ok steps, now => inputs.Arrived names start steps now
  | .error _, _ => True

section

variable (hparent : ∀ (checkout : Checkout Commit) (branch : String),
  names checkout (parentBranch branch) = checkout.tracking (parentBranch branch))
include hparent

theorem runFrom_keeps (h : inputs.Ready start step now) :
    (inputs.runFrom step).run.Keeps (Checkout.Allows names) (inputs.Undisturbed start)
      (inputs.Finished names start) now := by
  induction step using runFrom.induct generalizing now with
  | case1 step ih =>
      rw [runFrom]
      refine (advance_keeps hparent h).run_bind (fun next now hnow honward => ?_) fun _ _ _ => trivial
      cases next with
      | none => exact ⟨hnow, honward⟩
      | some next =>
          obtain ⟨next, hlater⟩ := next
          refine (ih next hlater honward).run_bind (fun steps now hnow harrived => ?_)
            fun _ _ _ => trivial
          have hstep : step ≠ .createNewBranch := by
            rintro rfl
            exact absurd hlater (Nat.not_lt_zero _)
          exact ⟨hnow, harrived.cons hstep⟩

/-- **A run keeps the assertions**, from whatever checkout it starts. -/
theorem run_keeps (start : Checkout Commit) :
    inputs.run.run.Keeps (Checkout.Allows names) (inputs.Undisturbed start)
      (inputs.Finished names start) start := by
  have hready : inputs.Ready start .clone start := Checkout.Stays.refl start
  refine (runFrom_keeps hparent hready).run_bind (fun steps now hnow harrived => ?_)
    fun _ _ _ => trivial
  refine Keeps.run_question_bind hnow fun _ after hafter => ?_
  rw [show after = now from hafter]
  exact ⟨hnow, harrived⟩

end

/-- **Branching moves no branch but its own.** Whatever a repository answers that keeps to its contract,
    after every question of a run each branch of the checkout is where it was at the start, but the base
    branch may be where the parent has it. A run that ends well ends on the new branch, with the base
    branch where the parent has it; and it makes the new branch only if there was none of its name, at
    what the base branch names. -/
theorem run_keeps_branches {checkoutAfter : List (Exchange Repository.Answer) → Checkout Commit}
    {repository : Oracle Repository.Answer}
    (hkept : Checkout.KeptBy names checkoutAfter repository) (inputs : Branching)
    (past : List (Exchange Repository.Answer)) :
    let said := inputs.run.run.transcript repository past
    (∀ before, before <+: said.1 →
      inputs.Undisturbed (checkoutAfter past) (checkoutAfter (past ++ before))) ∧
    ∀ steps, said.2 = .ok steps →
      inputs.Arrived names (checkoutAfter past) steps (checkoutAfter (past ++ said.1)) ∧
      ((∀ (checkout : Checkout Commit) (tip : Commit),
          checkout.branches inputs.baseBranch = some tip →
            names checkout inputs.baseBranch = some tip) →
        .createNewBranch ∈ steps →
        (checkoutAfter (past ++ said.1)).branches inputs.newBranch =
          (checkoutAfter (past ++ said.1)).branches inputs.baseBranch) := by
  intro said
  obtain ⟨hbefore, hended⟩ :=
    Keeps.transcript hkept.allows (run_keeps hkept.parent_named (checkoutAfter past))
  refine ⟨hbefore, fun steps hsteps => ?_⟩
  have harrived : inputs.Arrived names (checkoutAfter past) steps
      (checkoutAfter (past ++ said.1)) := by
    rw [show (inputs.run.run.transcript repository past).2 = .ok steps from hsteps] at hended
    exact hended
  exact ⟨harrived, harrived.made_at_base⟩

/-- A checkout of the branch "work" whose base branch is behind the parent. -/
def behind : Checkout Nat where
  branches branch := if branch = "main" then some 1 else if branch = "work" then some 7 else none
  tracking name := if name = "upstream/main" then some 2 else none
  current := some "work"

/-- A run that makes the branch "update" on top of the base branch "main". -/
def updating : Branching where
  originUrl := "fork"
  directory := "checkout"
  parentUrl := "parent"
  newBranch := "update"
  baseBranch := "main"

/-- The steps of that run. -/
def updatingSteps : List Step :=
  [.clone, .resetExisting, .addParent, .fetch, .resolveBase, .checkoutBase, .resetToParent,
    .checkoutNewBranch, .createNewBranch]

/-- The run resets the base branch, makes the new one, and leaves the branch it started from. -/
theorem updating_keeps_branches :
    let repository := Dialogue.simulated Checkout.simulate behind
    let checkoutAfter := Dialogue.simulatedAfter Checkout.simulate behind
    let said := updating.run.run.transcript repository []
    Checkout.KeptBy Checkout.named checkoutAfter repository ∧ said.2 = .ok updatingSteps ∧
      (checkoutAfter said.1).branches "work" = some 7 ∧ updating.AtParent (checkoutAfter said.1) := by
  intro repository checkoutAfter said
  have hkept := Checkout.keptBy_simulated behind
  obtain ⟨hbefore, hended⟩ := run_keeps_branches hkept updating []
  have hresult : said.2 = .ok updatingSteps := Result.toOption_eq_some.1 (by decide +kernel)
  have hwork := (hbefore _ (List.prefix_refl _)).others "work" 7 (by decide) rfl
  exact ⟨hkept, hresult, hwork, (hended updatingSteps hresult).1.base⟩

end PullRequestBot.Git.Branching
