import PullRequestBot.Proofs.Git.Branching.Frame
import PullRequestBot.Proofs.Git.Branching.Turn
import PullRequestBot.Proofs.Git.Workspace

set_option autoImplicit false

/-! # Branching again changes nothing

A run that ends well leaves a settled workspace: the directory holds something, the parent is
configured, the new branch is there and checked out, and the base branch is where the parent has it
(`run_settles`). From a settled workspace, with nothing new to fetch, a run takes the steps of
`rerunSteps` and comes back to the very workspace it started from (`run_again`), so a second run with the
same inputs changes nothing (`second_run_changes_nothing`). -/

namespace PullRequestBot.Git.Branching

open Dialogue (Exchange Keeps Oracle)

variable {Commit : Type} {inputs : Branching} {now : Workspace Commit} {step : Step}
variable {names : Checkout Commit → String → Option Commit}

/-! ## What the first run leaves -/

/-- What holds of the directory and its remotes before a step is carried out. -/
def Prepared : Step → Workspace Commit → Prop
  | .clone, _ => True
  | .resetExisting, now | .addParent, now => now.occupied = true
  | _, now => now.occupied = true ∧ now.remotes parentRemote ≠ none

/-- The directory holds something, the parent is configured, and the new branch is there. -/
structure Furnished (inputs : Branching) (now : Workspace Commit) : Prop where
  occupied : now.occupied = true
  parent : now.remotes parentRemote ≠ none
  made : now.checkout.branches inputs.newBranch ≠ none

/-- A furnished workspace whose base branch is where the parent has it, with the new branch checked
    out. -/
structure Settled (inputs : Branching) (now : Workspace Commit) : Prop
    extends Furnished inputs now where
  current : now.checkout.current = some inputs.newBranch
  base : inputs.AtParent now.checkout

/-- What holds after a step: the workspace is prepared for the next one, or furnished at the end. -/
def Furnishing (inputs : Branching) (step : Step) :
    Except Failure (Next step) → Workspace Commit → Prop
  | .ok (some next), now => Prepared next.val now
  | .ok none, now => inputs.Furnished now
  | .error _, _ => True

/-- A step that is not the clone leaves the workspace as well prepared as it was. -/
theorem Prepared.stays {after : Workspace Commit} {said : Exchange Repository.Answer}
    (h : Prepared step now) (hallows : Workspace.Allows names now said after)
    (hclone : ∀ url directory, said.question ≠ .clone url directory) : Prepared step after := by
  obtain ⟨hoccupied, hremotes⟩ := hallows.effect.around hclone
  cases step with
  | clone => trivial
  | resetExisting | addParent => exact hoccupied.trans h
  | _ => exact ⟨hoccupied.trans h.1, hremotes _ h.2⟩

/-- Looking for the base branch leaves the workspace prepared. -/
theorem baseState_prepares (h : Prepared .fetch now) :
    inputs.baseState.Keeps (Workspace.Allows names) (fun _ => True)
      (fun _ now => Prepared .fetch now) now := by
  refine ⟨trivial, fun found after hallows => ?_⟩
  have hafter := h.stays hallows nofun
  cases found with
  | true => exact ⟨trivial, hafter⟩
  | false =>
      refine ⟨trivial, fun tracking later hallows => ?_⟩
      have hlater := hafter.stays hallows nofun
      cases tracking with
      | true | false => exact ⟨trivial, hlater⟩

/-- The rest of a step. -/
abbrev StepFurnishes (inputs : Branching) (names : Checkout Commit → String → Option Commit)
    (step : Step) (job : Run (Next step)) (now : Workspace Commit) : Prop :=
  job.run.Keeps (Workspace.Allows names) (fun _ => True) (inputs.Furnishing step) now

theorem furnishes_goTo {next : Step} {later : next.rank < step.rank} (h : Prepared next now) :
    inputs.StepFurnishes names step (return goTo next later) now :=
  ⟨trivial, h⟩

theorem furnishes_tell_goTo {severity : Log.Severity} {message : String}
    {fields : List (String × Log.Value)} {next : Step} {later : next.rank < step.rank}
    (h : Prepared next now) :
    inputs.StepFurnishes names step (do tell severity message fields; return goTo next later) now :=
  Keeps.run_question_bind trivial fun _ _ hallows => ⟨trivial, h.stays hallows nofun⟩

/-- Every step prepares the workspace for the next one. -/
theorem advance_furnishes (h : Prepared step now) :
    inputs.StepFurnishes names step (inputs.advance step) now := by
  cases step with
  | clone =>
      refine Keeps.run_question_bind trivial fun answer after hallows => ?_
      split
      · exact furnishes_goTo hallows.effect
      · next path =>
          -- what is refused as not empty is not empty
          have hoccupied : now.occupied = true := hallows.obliges.2 ⟨path, rfl⟩
          obtain rfl := Workspace.eq_of_checkout hallows.effect hallows.checkout
          exact furnishes_tell_goTo hoccupied
      · exact ⟨trivial, trivial⟩
  | resetExisting =>
      refine ⟨trivial, fun answer after hallows => ?_⟩
      have hafter := h.stays hallows nofun
      cases answer with
      | ok _ => exact furnishes_goTo hafter
      | error failure => exact ⟨trivial, trivial⟩
  | addParent =>
      refine Keeps.run_question_bind trivial fun answer after hallows => ?_
      have hafter := h.stays hallows nofun
      split
      · refine furnishes_goTo ⟨hafter, ?_⟩
        rw [hallows.effect.2]
        simp
      · next reported =>
          have hparent : now.remotes parentRemote ≠ none := hallows.obliges.2 ⟨reported, rfl⟩
          have hremotes := (hallows.effect.around nofun).2 parentRemote hparent
          exact furnishes_tell_goTo ⟨hafter, hremotes⟩
      · exact ⟨trivial, trivial⟩
  | fetch | checkoutBase | createBase | resetToParent =>
      refine ⟨trivial, fun answer after hallows => ?_⟩
      have hafter := h.stays hallows nofun
      cases answer with
      | ok _ => exact furnishes_goTo hafter
      | error failure => exact ⟨trivial, trivial⟩
  | resolveBase =>
      refine Keeps.run_lift_bind (baseState_prepares h) fun state now _ h => ?_
      refine Keeps.run_question_bind trivial fun _ after hallows => ?_
      have hafter := h.stays hallows nofun
      cases state with
      | localBranch | remoteTracking | absent => exact furnishes_goTo hafter
  | trackBase =>
      refine Keeps.run_question_bind trivial fun answer after hallows => ?_
      have hafter := h.stays hallows nofun
      split
      · exact furnishes_goTo hafter
      · exact furnishes_tell_goTo hafter
      · exact ⟨trivial, trivial⟩
  | checkoutNewBranch =>
      refine Keeps.run_question_bind trivial fun answer after hallows => ?_
      have hafter := h.stays hallows nofun
      split
      · exact ⟨trivial, hafter.1, hafter.2, hallows.effect.2.2⟩
      · exact furnishes_tell_goTo hafter
      · exact ⟨trivial, trivial⟩
  | createNewBranch =>
      refine ⟨trivial, fun answer after hallows => ?_⟩
      have hafter := h.stays hallows nofun
      cases answer with
      | ok _ =>
          obtain ⟨-, commit, -, hmade⟩ := hallows.checkout
          refine ⟨trivial, hafter.1, hafter.2, ?_⟩
          simp [hmade]
      | error failure => exact ⟨trivial, trivial⟩

theorem runFrom_furnishes (h : Prepared step now) :
    (inputs.runFrom step).run.Keeps (Workspace.Allows names) (fun _ => True)
      (fun result now => ∀ steps, result = .ok steps → inputs.Furnished now) now := by
  induction step using runFrom.induct generalizing now with
  | case1 step ih =>
      rw [runFrom]
      refine (advance_furnishes h).run_bind (fun next now _ hnext => ?_) fun _ _ _ _ hended => ?_
      · cases next with
        | none => exact ⟨trivial, fun _ _ => hnext⟩
        | some next =>
            obtain ⟨next, hlater⟩ := next
            refine (ih next hlater hnext).run_bind (fun steps now _ hfurnished => ?_) fun _ _ _ _ hended => ?_
            · exact ⟨trivial, fun _ _ => hfurnished steps rfl⟩
            · cases hended
      · cases hended

theorem Furnished.told {after : Workspace Commit} {event : Log.Event} {answer : Unit}
    (h : inputs.Furnished now) (hallows : Workspace.Allows names now ⟨.tell event, answer⟩ after) :
    inputs.Furnished after := by
  rw [Workspace.eq_of_checkout hallows.effect hallows.checkout]
  exact h

theorem run_furnishes (start : Workspace Commit) :
    inputs.run.run.Keeps (Workspace.Allows names) (fun _ => True)
      (fun result now => ∀ steps, result = .ok steps → inputs.Furnished now) start := by
  have hprepared : Prepared .clone start := trivial
  refine (runFrom_furnishes hprepared).run_bind (fun steps now _ hfurnished => ?_) fun _ _ _ => nofun
  refine Keeps.run_question_bind trivial fun _ after hallows => ?_
  exact ⟨trivial, fun _ _ => (hfurnished steps rfl).told hallows⟩

/-- **A run that ends well leaves a settled workspace**, whatever it started from. -/
theorem run_settles
    (hparent : ∀ (checkout : Checkout Commit) (branch : String),
      names checkout (parentBranch branch) = checkout.tracking (parentBranch branch))
    (start : Workspace Commit) :
    inputs.run.run.Keeps (Workspace.Allows names) (fun _ => True)
      (fun result now => ∀ steps, result = .ok steps → inputs.Settled now) start := by
  have hrun : inputs.run.run.Keeps (Checkout.Allows names) (inputs.Undisturbed start.checkout)
      (inputs.Finished names start.checkout) start.checkout :=
    run_keeps hparent start.checkout
  have harrives := hrun.of_image Workspace.checkout
    fun _ _ _ (h : Workspace.Allows names _ _ _) => h.checkout
  refine (harrives.and (run_furnishes start)).imp (fun _ _ => trivial) ?_
  rintro result now ⟨hfinished, hfurnished⟩ steps rfl
  exact { hfurnished steps rfl with current := hfinished.current, base := hfinished.base }

/-! ## What the second run does -/

/-- The steps of a run that finds everything in place. -/
def rerunSteps : List Step :=
  [.clone, .resetExisting, .addParent, .fetch, .resolveBase, .checkoutBase, .resetToParent,
    .checkoutNewBranch]

/-- The step of a rerun that follows another. -/
def rerunNext : Step → Option Step
  | .clone => some .resetExisting
  | .resolveBase => some .checkoutBase
  | step => onward step

/-- The steps of a rerun from one of them on. -/
def rerunFrom (step : Step) : List Step :=
  rerunSteps.dropWhile (· ≠ step)

theorem rerunFrom_eq (h : step ∈ rerunSteps) :
    rerunFrom step = step :: (rerunNext step).elim [] rerunFrom ∧
      ∀ next ∈ rerunNext step, next ∈ rerunSteps := by
  revert step
  decide

/-- The contract where in addition nothing is new on the remotes: from the settled workspace a fetch
    succeeds, and what is tracked stays. -/
def StillAllows (inputs : Branching) (names : Checkout Commit → String → Option Commit)
    (settled before : Workspace Commit) (said : Exchange Repository.Answer)
    (after : Workspace Commit) : Prop :=
  Workspace.Allows names before said after ∧
    ∀ answer, said = ⟨.fetchAll inputs.directory, answer⟩ → before = settled →
      answer = .ok () ∧ after.checkout.tracking = before.checkout.tracking

/-- The workspace before a step of a rerun: only the base branch is entered in between. -/
def rerunPlace (inputs : Branching) (settled : Workspace Commit) : Step → Workspace Commit
  | .resetToParent | .checkoutNewBranch =>
    { settled with checkout := settled.checkout.enter inputs.baseBranch }
  | _ => settled

variable {settled : Workspace Commit}

/-- What holds after a step of a rerun: the next one follows, in its place. -/
def Again (inputs : Branching) (settled : Workspace Commit) (step : Step)
    (result : Except Failure (Next step)) (now : Workspace Commit) : Prop :=
  following result = .ok (rerunNext step) ∧
    now = (rerunNext step).elim settled (inputs.rerunPlace settled)

/-- The rest of a step of a rerun. -/
abbrev StepAgain (inputs : Branching) (names : Checkout Commit → String → Option Commit)
    (settled : Workspace Commit) (step : Step) (job : Run (Next step)) (now : Workspace Commit) :
    Prop :=
  job.run.Keeps (inputs.StillAllows names settled) (fun _ => True) (inputs.Again settled step) now

theorem again_tell {severity : Log.Severity} {message : String}
    {fields : List (String × Log.Value)} {job : Run (Next step)}
    (h : inputs.StepAgain names settled step job now) :
    inputs.StepAgain names settled step (do tell severity message fields; job) now := by
  refine Keeps.run_question_bind trivial fun _ after hallows => ?_
  rw [Workspace.eq_of_checkout hallows.1.effect hallows.1.checkout]
  exact h

/-- A rerun finds the base branch in the checkout. -/
theorem baseState_again (hbase : inputs.AtParent settled.checkout) :
    inputs.baseState.Keeps (inputs.StillAllows names settled) (fun _ => True)
      (fun state now => state = .localBranch ∧ now = settled) settled := by
  refine ⟨trivial, fun found after hallows => ?_⟩
  obtain ⟨hsame, htruth, -⟩ := hallows.1.checkout
  have hfound : found = true := by
    obtain ⟨tip, -, hthere⟩ := hbase
    exact (htruth inputs.baseBranch rfl).2 ⟨tip, hthere⟩
  subst hfound
  exact ⟨trivial, rfl, Workspace.eq_of_checkout hallows.1.effect hsame⟩

section

variable (hparent : ∀ (checkout : Checkout Commit) (branch : String),
    names checkout (parentBranch branch) = checkout.tracking (parentBranch branch))
  (hhead : ∀ (checkout : Checkout Commit) (branch : String),
    checkout.current = some branch → names checkout "HEAD" = checkout.branches branch)
include hparent hhead

/-- **A step of a rerun does what it has to**, and the next one follows. -/
theorem advance_again (hsettled : inputs.Settled settled) (hstep : step ∈ rerunSteps) :
    inputs.StepAgain names settled step (inputs.advance step) (inputs.rerunPlace settled step) := by
  obtain ⟨tip, htracking, hbase⟩ := hsettled.base
  have hthere : settled.checkout.branches inputs.baseBranch ≠ none := by
    rw [hbase]
    exact nofun
  cases step with
  | clone =>
      refine Keeps.run_question_bind trivial fun answer after hallows => ?_
      obtain ⟨path, rfl⟩ := hallows.1.obliges.1 hsettled.occupied
      obtain rfl := Workspace.eq_of_checkout hallows.1.effect hallows.1.checkout
      exact again_tell ⟨trivial, rfl, rfl⟩
  | resetExisting =>
      refine ⟨trivial, fun answer after hallows => ?_⟩
      have hnames : names settled.checkout "HEAD" ≠ none := by
        rw [hhead _ _ hsettled.current]
        exact hsettled.made
      obtain rfl := hallows.1.obliges hnames
      have hafter := Checkout.Allows.hardReset_head hallows.1.checkout
      exact ⟨trivial, rfl, Workspace.eq_of_checkout hallows.1.effect hafter⟩
  | addParent =>
      refine Keeps.run_question_bind trivial fun answer after hallows => ?_
      obtain ⟨reported, rfl⟩ := hallows.1.obliges.1 hsettled.parent
      obtain rfl := Workspace.eq_of_checkout hallows.1.effect hallows.1.checkout
      exact again_tell ⟨trivial, rfl, rfl⟩
  | fetch =>
      refine ⟨trivial, fun answer after hallows => ?_⟩
      obtain ⟨rfl, htracked⟩ := hallows.2 answer rfl rfl
      refine ⟨trivial, rfl, ?_⟩
      rw [hallows.1.effect, htracked]
      rfl
  | resolveBase =>
      refine Keeps.run_lift_bind (baseState_again hsettled.base) ?_
      rintro state now - ⟨rfl, rfl⟩
      exact again_tell ⟨trivial, rfl, rfl⟩
  | checkoutBase =>
      refine ⟨trivial, fun answer after hallows => ?_⟩
      obtain rfl := hallows.1.obliges hthere
      obtain ⟨hafter, hentered, -⟩ := hallows.1.effect
      refine ⟨trivial, rfl, ?_⟩
      rw [hafter, hentered hthere]
      rfl
  | resetToParent =>
      refine ⟨trivial, fun answer after hallows => ?_⟩
      have hnamed : names (settled.checkout.enter inputs.baseBranch) inputs.parentBase = some tip :=
        (hparent _ inputs.baseBranch).trans htracking
      have hnames : names (settled.checkout.enter inputs.baseBranch) inputs.parentBase ≠ none := by
        rw [hnamed]
        exact nofun
      obtain rfl := hallows.1.obliges hnames
      obtain ⟨commit, hcommit, hput⟩ :=
        hallows.1.checkout.hardReset (parentBranch_ne_head inputs.baseBranch) rfl
      -- the base branch is there already, so the reset leaves it where it is
      obtain rfl : tip = commit := Option.some.inj (hnamed.symm.trans hcommit)
      have hafter := hput.trans (Checkout.put_of_branches hbase)
      exact ⟨trivial, rfl, Workspace.eq_of_checkout hallows.1.effect hafter⟩
  | checkoutNewBranch =>
      refine Keeps.run_question_bind trivial fun answer after hallows => ?_
      obtain rfl := hallows.1.obliges hsettled.made
      obtain ⟨hafter, hentered, -⟩ := hallows.1.effect
      have hback : after.checkout = settled.checkout :=
        (hentered hsettled.made).trans (Checkout.enter_of_current hsettled.current)
      refine ⟨trivial, rfl, ?_⟩
      rw [hafter, hback]
      rfl
  | trackBase | createBase | createNewBranch => exact absurd hstep (by decide)

theorem runFrom_again (hsettled : inputs.Settled settled) (hstep : step ∈ rerunSteps) :
    (inputs.runFrom step).run.Keeps (inputs.StillAllows names settled) (fun _ => True)
      (fun result now => result = .ok (rerunFrom step) ∧ now = settled)
      (inputs.rerunPlace settled step) := by
  induction step using runFrom.induct with
  | case1 step ih =>
      obtain ⟨hsteps, hnext⟩ := rerunFrom_eq hstep
      rw [runFrom]
      refine (advance_again hparent hhead hsettled hstep).run_bind ?_ fun _ _ hfailed => ?_
      · rintro next now - ⟨hfollowing, hplace⟩
        cases next with
        | none =>
            have hlast : rerunNext step = none := (Except.ok.inj hfollowing).symm
            rw [hlast] at hsteps hplace
            exact ⟨trivial, congrArg Except.ok hsteps.symm, hplace⟩
        | some next =>
            obtain ⟨next, hlater⟩ := next
            have hgoes : rerunNext step = some next := (Except.ok.inj hfollowing).symm
            rw [hgoes] at hsteps hplace
            subst hplace
            refine (ih next hlater (hnext next hgoes)).run_bind ?_ fun _ _ hfailed => ?_
            · rintro later now - ⟨hrest, rfl⟩
              exact ⟨trivial, congrArg Except.ok (by rw [hsteps, Except.ok.inj hrest]; rfl), rfl⟩
            · cases hfailed.1
      · cases hfailed.1

/-- **A run from a settled workspace finds everything in place**: it takes the steps of a rerun, and ends
    in the workspace that it started from. -/
theorem run_again (hsettled : inputs.Settled settled) :
    inputs.run.run.Keeps (inputs.StillAllows names settled) (fun _ => True)
      (fun result now => result = .ok rerunSteps ∧ now = settled) settled := by
  have hfirst : Step.clone ∈ rerunSteps := by decide
  refine (runFrom_again hparent hhead hsettled hfirst).run_bind ?_ fun _ _ hfailed => ?_
  · rintro steps now - ⟨hsteps, rfl⟩
    refine Keeps.run_question_bind trivial fun _ after hallows => ?_
    exact ⟨trivial, hsteps, Workspace.eq_of_checkout hallows.1.effect hallows.1.checkout⟩
  · exact absurd hfailed.1 nofun

end

/-! ## Two runs -/

/-- Nothing is new on the remotes after what was said: a fetch from the workspace as it is then succeeds,
    and what is tracked stays. -/
def NothingToFetch (inputs : Branching)
    (workspaceAfter : List (Exchange Repository.Answer) → Workspace Commit)
    (repository : Oracle Repository.Answer) (said : List (Exchange Repository.Answer)) : Prop :=
  ∀ later, workspaceAfter (said ++ later) = workspaceAfter said →
    let answer := repository (said ++ later) (.fetchAll inputs.directory)
    answer = .ok () ∧
      (workspaceAfter (said ++ later ++ [⟨.fetchAll inputs.directory, answer⟩])).checkout.tracking =
        (workspaceAfter said).checkout.tracking

/-- With nothing to fetch, the repository keeps to the narrower contract from then on. -/
theorem stillAllows_of_nothingToFetch
    {workspaceAfter : List (Exchange Repository.Answer) → Workspace Commit}
    {repository : Oracle Repository.Answer}
    (hkept : Workspace.KeptBy names workspaceAfter repository)
    {said : List (Exchange Repository.Answer)}
    (hfetch : inputs.NothingToFetch workspaceAfter repository said)
    (later : List (Exchange Repository.Answer)) (question : Repository.Question) :
    inputs.StillAllows names (workspaceAfter said) (workspaceAfter (said ++ later))
      ⟨question, repository (said ++ later) question⟩
      (workspaceAfter (said ++ (later ++ [⟨question, repository (said ++ later) question⟩]))) := by
  rw [← List.append_assoc]
  refine ⟨hkept.allows (said ++ later) question, ?_⟩
  rintro fetched hfetched hback
  cases hfetched
  rw [hback]
  exact hfetch later hback

/-- **Branching again changes nothing.** If a run ends well, whatever it started from, and nothing is new
    on the remotes after it, then a second run with the same inputs ends well, takes the steps of a rerun
    and no other, and leaves all branches, tracked references and remotes and the branch that is checked
    out as the first one left them. -/
theorem second_run_changes_nothing
    {workspaceAfter : List (Exchange Repository.Answer) → Workspace Commit}
    {repository : Oracle Repository.Answer}
    (hkept : Workspace.KeptBy names workspaceAfter repository) (inputs : Branching)
    (past : List (Exchange Repository.Answer)) :
    let first := inputs.run.run.transcript repository past
    let second := inputs.run.run.transcript repository (past ++ first.1)
    (∃ steps, first.2 = .ok steps) →
    inputs.NothingToFetch workspaceAfter repository (past ++ first.1) →
      second.2 = .ok rerunSteps ∧
        workspaceAfter (past ++ first.1 ++ second.1) = workspaceAfter (past ++ first.1) := by
  intro first second hended hfetch
  obtain ⟨steps, hsteps⟩ := hended
  have hsettled : inputs.Settled (workspaceAfter (past ++ first.1)) :=
    (Keeps.transcript hkept.allows (run_settles hkept.parent_named _)).2 steps hsteps
  exact (run_again hkept.parent_named hkept.head_named hsettled).transcript_after
    (stillAllows_of_nothingToFetch hkept hfetch)

/-- In the simulated repository there is nothing to fetch once all that is published is tracked. -/
theorem nothingToFetch_simulated (origin : Checkout Commit) (published : String → Option Commit)
    (start : Workspace Commit) (said : List (Exchange Repository.Answer))
    (h : ∀ name commit, published name = some commit →
      (Dialogue.simulatedAfter (Workspace.simulate origin published) start said).checkout.tracking name =
        some commit) :
    inputs.NothingToFetch (Dialogue.simulatedAfter (Workspace.simulate origin published) start)
      (Dialogue.simulated (Workspace.simulate origin published) start) said := by
  intro later hback
  refine ⟨rfl, ?_⟩
  rw [Dialogue.simulatedAfter_concat, hback]
  funext name
  show (published name).or _ = _
  cases hpublished : published name with
  | none => exact Option.none_or
  | some commit => exact (h name commit hpublished).symm

/-- An empty directory. -/
def emptyDirectory : Workspace Nat where
  checkout := ⟨fun _ => none, fun _ => none, none⟩
  remotes _ := none
  occupied := false

/-- What a fork gives that has the branch "trunk" only. -/
def trunkOnly : Checkout Nat where
  branches name := if name = "trunk" then some 1 else none
  tracking _ := none
  current := some "trunk"

/-- The parent has a branch "main". -/
def mainPublished (name : String) : Option Nat :=
  if name = "upstream/main" then some 2 else none

/-- The steps of a first run in an empty directory where the base branch has to be made. -/
def freshSteps : List Step :=
  [.clone, .addParent, .fetch, .resolveBase, .trackBase, .createBase, .resetToParent,
    .checkoutNewBranch, .createNewBranch]

/-- The first run clones, makes both branches and leaves them where they belong; the second one finds
    everything in place. -/
theorem rerun_after_fresh_run :
    let simulate := Workspace.simulate trunkOnly mainPublished
    let repository := Dialogue.simulated simulate emptyDirectory
    let workspaceAfter := Dialogue.simulatedAfter simulate emptyDirectory
    let first := updating.run.run.transcript repository []
    let second := updating.run.run.transcript repository first.1
    Workspace.KeptBy Checkout.resolve workspaceAfter repository ∧
      first.2 = .ok freshSteps ∧
      updating.NothingToFetch workspaceAfter repository first.1 ∧
      second.2 = .ok rerunSteps ∧ workspaceAfter (first.1 ++ second.1) = workspaceAfter first.1 := by
  intro simulate repository workspaceAfter first second
  have hkept := Workspace.keptBy_simulated trunkOnly mainPublished emptyDirectory
  have hfirst : first.2 = .ok freshSteps := Result.toOption_eq_some.1 (by decide +kernel)
  have hfetch : updating.NothingToFetch workspaceAfter repository first.1 := by
    refine nothingToFetch_simulated _ _ _ _ fun name commit hpublished => ?_
    obtain ⟨rfl, hcommit⟩ := Option.ite_none_right_eq_some.1 hpublished
    have htracked : (workspaceAfter first.1).checkout.tracking "upstream/main" = some 2 := by
      decide +kernel
    exact htracked.trans hcommit
  obtain ⟨hsecond, hsame⟩ := second_run_changes_nothing hkept updating [] ⟨freshSteps, hfirst⟩ hfetch
  exact ⟨hkept, hfirst, hfetch, hsecond, hsame⟩

end PullRequestBot.Git.Branching
