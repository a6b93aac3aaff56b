import PullRequestBot.Proofs.Git.Branching.Course

set_option autoImplicit false

/-! # The route of a run that ends well

A run that ends well is fixed by a few answers, its steering: whether the directory was taken, whether
the parent was configured, how the base branch was come by, and whether the new branch was missing
(`Course.steered`). Its steps and its operations are read off the steering, and so is the shape of
every run (`run_shape`). -/

namespace PullRequestBot.Git.Branching

open Dialogue (Exchange Oracle)

variable {inputs : Branching} {step : Step} {taken : List Taken}

/-! ## Steering -/

/-- How a run comes by the base branch. -/
inductive BaseRoute where
  | found
  | tracked (seen : Bool)
  | made (seen : Bool) (failure : GitFailure)

/-- The answers that steer a run that ends well; where there is none, the operation succeeded. -/
structure Steering where
  occupied : Option String
  /-- What configuring the parent was answered: it succeeded, or the remote was there already. -/
  parent : Except Failure Unit
  base : BaseRoute
  missing : Option String

/-- The turn of a step whose operation is answered in the given way. -/
def turn (inputs : Branching) (answer : Except Failure Unit) (step : Step) : Taken :=
  (step, inputs.called answer step)

def cloneTurns (inputs : Branching) : Option String → List Taken
  | none => [inputs.turn (.ok ()) .clone]
  | some path =>
    [inputs.turn (.error (.git (.targetNotEmpty path))) .clone, inputs.turn (.ok ()) .resetExisting]

def baseTurns (inputs : Branching) : BaseRoute → List Taken
  | .found => [(.resolveBase, [inputs.lookedUpLocal true]), inputs.turn (.ok ()) .checkoutBase]
  | .tracked seen =>
    [(.resolveBase, [inputs.lookedUpLocal false, inputs.lookedUpTracking seen]),
      inputs.turn (.ok ()) .trackBase]
  | .made seen failure =>
    [(.resolveBase, [inputs.lookedUpLocal false, inputs.lookedUpTracking seen]),
      inputs.turn (.error (.git failure)) .trackBase, inputs.turn (.ok ()) .createBase]

def newBranchTurns (inputs : Branching) : Option String → List Taken
  | none => [inputs.turn (.ok ()) .checkoutNewBranch]
  | some branch =>
    [inputs.turn (.error (.git (.branchNotFound branch))) .checkoutNewBranch,
      inputs.turn (.ok ()) .createNewBranch]

/-- The turns of a run that ends well. -/
def Steering.turns (steering : Steering) (inputs : Branching) : List Taken :=
  inputs.cloneTurns steering.occupied ++ (inputs.turn steering.parent .addParent ::
    inputs.turn (.ok ()) .fetch :: (inputs.baseTurns steering.base ++
      (inputs.turn (.ok ()) .resetToParent :: inputs.newBranchTurns steering.missing)))

/-! ## Failures that are recovered from -/

/-- The failure is one that the step recovers from, by the later step. -/
def Recovers (failure : Failure) (later : Step) : Step → Prop
  | .clone => later = .resetExisting ∧ ∃ path, failure = .git (.targetNotEmpty path)
  | .addParent => later = .fetch ∧ ∃ name, failure = .git (.remoteExists name)
  | .trackBase => later = .createBase ∧ ∃ gitFailure, failure = .git gitFailure
  | .checkoutNewBranch => later = .createNewBranch ∧ ∃ branch, failure = .git (.branchNotFound branch)
  | _ => False

theorem recovers_of_recovery {failure : Failure} {later : Step}
    (h : recovery step failure = some later) : Recovers failure later step := by
  cases step with
  | clone | addParent | trackBase | checkoutNewBranch =>
      unfold recovery at h
      simp only at h
      split at h
      · exact ⟨(Option.some.inj h).symm, _, rfl⟩
      · exact absurd h nofun
  | _ => exact absurd h nofun

/-! ## Courses that end well -/

/-- A course from a step on, or nothing where there is no further step. -/
def GoesOn (inputs : Branching) : Option Step → List Taken → Prop
  | none, taken => taken = []
  | some step, taken => inputs.Course step taken none

/-- A course that ends well starts with a turn that goes on. -/
theorem Course.first_turn (h : inputs.Course step taken none) :
    ∃ now next later, taken = (step, now) :: later ∧ inputs.Turn step now (.ok next) ∧
      inputs.GoesOn next later := by
  cases h with
  | ended turn => exact ⟨_, none, [], rfl, turn_of_leads turn, rfl⟩
  | went turn rest => exact ⟨_, _, _, rfl, turn_of_leads turn, rest⟩

/-- A step of a course that ends well passes, or recovers from a failure that it knows. -/
theorem Course.passed_or_recovered (h : inputs.Course step taken none)
    (hsearch : step ≠ .resolveBase) :
    (∃ later, taken = inputs.turn (.ok ()) step :: later ∧ inputs.GoesOn (onward step) later) ∨
      ∃ failure next later, recovery step failure = some next ∧
        taken = inputs.turn (.error failure) step :: later ∧ inputs.Course next later none := by
  obtain ⟨now, next, later, rfl, hturn, hlater⟩ := h.first_turn
  cases hturn with
  | passed _ => exact Or.inl ⟨later, rfl, hlater⟩
  | recovered failure hknown => exact Or.inr ⟨failure, _, later, hknown, rfl, hlater⟩
  | foundLocal | notLocal _ => exact absurd rfl hsearch

/-- A step without recovery passes. -/
theorem Course.passed (h : inputs.Course step taken none) (hsearch : step ≠ .resolveBase)
    (hnone : ∀ failure, recovery step failure = none) :
    ∃ later, taken = inputs.turn (.ok ()) step :: later ∧ inputs.GoesOn (onward step) later := by
  rcases h.passed_or_recovered hsearch with hpassed | ⟨failure, _, _, hknown, _⟩
  · exact hpassed
  · rw [hnone failure] at hknown
    exact absurd hknown nofun

theorem Course.newBranch (h : inputs.Course .checkoutNewBranch taken none) :
    ∃ missing, taken = inputs.newBranchTurns missing := by
  rcases h.passed_or_recovered (by decide) with
    ⟨_, rfl, rfl⟩ | ⟨failure, next, later, hknown, rfl, hlater⟩
  · exact ⟨none, rfl⟩
  · obtain ⟨rfl, branch, rfl⟩ := recovers_of_recovery hknown
    obtain ⟨_, rfl, rfl⟩ := hlater.passed (by decide) fun _ => rfl
    exact ⟨some branch, rfl⟩

theorem Course.reset (h : inputs.Course .resetToParent taken none) :
    ∃ missing, taken = inputs.turn (.ok ()) .resetToParent :: inputs.newBranchTurns missing := by
  obtain ⟨later, rfl, hlater⟩ := h.passed (by decide) fun _ => rfl
  obtain ⟨missing, rfl⟩ := Course.newBranch hlater
  exact ⟨missing, rfl⟩

theorem Course.base (h : inputs.Course .resolveBase taken none) :
    ∃ base missing, taken = inputs.baseTurns base ++
      (inputs.turn (.ok ()) .resetToParent :: inputs.newBranchTurns missing) := by
  obtain ⟨now, next, later, rfl, hturn, hlater⟩ := h.first_turn
  cases hturn with
  | passed hsearch => exact absurd rfl hsearch
  | recovered failure hknown => exact absurd hknown nofun
  | foundLocal =>
      obtain ⟨_, rfl, hreset⟩ := Course.passed hlater (by decide) fun _ => rfl
      obtain ⟨missing, rfl⟩ := Course.reset hreset
      exact ⟨.found, missing, rfl⟩
  | notLocal seen =>
      rcases Course.passed_or_recovered hlater (by decide) with
        ⟨_, rfl, hreset⟩ | ⟨failure, next, _, hknown, rfl, hcreate⟩
      · obtain ⟨missing, rfl⟩ := Course.reset hreset
        exact ⟨.tracked seen, missing, rfl⟩
      · obtain ⟨rfl, gitFailure, rfl⟩ := recovers_of_recovery hknown
        obtain ⟨_, rfl, hreset⟩ := hcreate.passed (by decide) fun _ => rfl
        obtain ⟨missing, rfl⟩ := Course.reset hreset
        exact ⟨.made seen gitFailure, missing, rfl⟩

theorem Course.fetch (h : inputs.Course .fetch taken none) :
    ∃ base missing, taken = inputs.turn (.ok ()) .fetch :: (inputs.baseTurns base ++
      (inputs.turn (.ok ()) .resetToParent :: inputs.newBranchTurns missing)) := by
  obtain ⟨later, rfl, hlater⟩ := h.passed (by decide) fun _ => rfl
  obtain ⟨base, missing, rfl⟩ := Course.base hlater
  exact ⟨base, missing, rfl⟩

theorem Course.parent (h : inputs.Course .addParent taken none) :
    ∃ parent base missing, taken = inputs.turn parent .addParent ::
      inputs.turn (.ok ()) .fetch :: (inputs.baseTurns base ++
        (inputs.turn (.ok ()) .resetToParent :: inputs.newBranchTurns missing)) := by
  rcases h.passed_or_recovered (by decide) with
    ⟨_, rfl, hfetch⟩ | ⟨failure, next, _, hknown, rfl, hfetch⟩
  · obtain ⟨base, missing, rfl⟩ := Course.fetch hfetch
    exact ⟨_, base, missing, rfl⟩
  · obtain ⟨rfl, name, rfl⟩ := recovers_of_recovery hknown
    obtain ⟨base, missing, rfl⟩ := hfetch.fetch
    exact ⟨_, base, missing, rfl⟩

/-- **A run that ends well is steered.** -/
theorem Course.steered (h : inputs.Course .clone taken none) :
    ∃ steering : Steering, taken = steering.turns inputs := by
  rcases h.passed_or_recovered (by decide) with
    ⟨_, rfl, hparent⟩ | ⟨failure, next, _, hknown, rfl, hreset⟩
  · obtain ⟨parent, base, missing, rfl⟩ := Course.parent hparent
    exact ⟨⟨none, parent, base, missing⟩, rfl⟩
  · obtain ⟨rfl, path, rfl⟩ := recovers_of_recovery hknown
    obtain ⟨_, rfl, hparent⟩ := hreset.passed (by decide) fun _ => rfl
    obtain ⟨parent, base, missing, rfl⟩ := Course.parent hparent
    exact ⟨⟨some path, parent, base, missing⟩, rfl⟩

/-! ## The shape of a run -/

/-- The steps of a run that ends well, by what was met on the way. -/
def route (occupied baseIsLocal untracked missing : Bool) : List Step :=
  [.clone] ++ (if occupied then [.resetExisting] else []) ++ [.addParent, .fetch, .resolveBase] ++
    (if baseIsLocal then [.checkoutBase]
      else [.trackBase] ++ if untracked then [.createBase] else []) ++
    [.resetToParent, .checkoutNewBranch] ++ if missing then [.createNewBranch] else []

/-- What a run met on the way, by the answers that it got. -/
structure Met (inputs : Branching) (said : List Said)
    (occupied baseIsLocal untracked missing : Bool) : Prop where
  occupied_iff : occupied = true ↔ ∃ path,
    ⟨.clone inputs.originUrl inputs.directory, .error (.git (.targetNotEmpty path))⟩ ∈ said
  baseIsLocal_iff : baseIsLocal = true ↔
    ⟨.refExists inputs.directory (localBranchRef inputs.baseBranch), true⟩ ∈ said
  untracked_iff : untracked = true ↔ ∃ failure,
    ⟨.checkout inputs.directory inputs.parentBase true, .error (.git failure)⟩ ∈ said
  missing_iff : missing = true ↔ ∃ branch,
    ⟨.checkout inputs.directory inputs.newBranch false, .error (.git (.branchNotFound branch))⟩ ∈ said

/-- Only calls matter to what was met. -/
theorem Met.of_calls {said : List Said} {occupied baseIsLocal untracked missing : Bool}
    (h : inputs.Met (calls said) occupied baseIsLocal untracked missing) :
    inputs.Met said occupied baseIsLocal untracked missing where
  occupied_iff := by
    rw [h.occupied_iff]
    exact exists_congr fun _ => mem_calls_iff rfl
  baseIsLocal_iff := by
    rw [h.baseIsLocal_iff]
    exact mem_calls_iff rfl
  untracked_iff := by
    rw [h.untracked_iff]
    exact exists_congr fun _ => mem_calls_iff rfl
  missing_iff := by
    rw [h.missing_iff]
    exact exists_congr fun _ => mem_calls_iff rfl

/-- The route of a steered run, and what it met. -/
theorem Steering.route_met (steering : Steering) (inputs : Branching) :
    ∃ occupied baseIsLocal untracked missing,
      stepsOf (steering.turns inputs) = route occupied baseIsLocal untracked missing ∧
        inputs.Met (callsOf (steering.turns inputs)) occupied baseIsLocal untracked missing := by
  rcases steering with ⟨occupied, parent, base, missing⟩
  refine ⟨occupied.isSome, base matches .found, base matches .made _ _, missing.isSome, ?_, ?_⟩
  · rcases occupied with _ | _ <;> rcases base with _ | _ | _ <;> rcases missing with _ | _ <;> rfl
  -- each answer is met in one place only, as the operations before and after it are other ones
  · rcases occupied with _ | path <;> rcases base with _ | seen | ⟨seen, failure⟩ <;>
      rcases missing with _ | branch <;> constructor <;>
      simp [turns, cloneTurns, baseTurns, newBranchTurns, turn, callsOf, called, lookedUpLocal,
        lookedUpTracking, localBranchRef_ne_trackingRef]

/-- **The shape of a run.** Whatever the repository answers, a run carries out finitely many steps, none
    of them twice, and calls exactly their operations, in order. If it ends well, it answers its steps;
    they follow the one route, and each of the four steps that may be left out is there if and only if
    the answer that calls for it was given. -/
theorem run_shape (inputs : Branching) (repository : Oracle Repository.Answer) (past : List Said) :
    let said := inputs.run.run.transcript repository past
    ∃ taken ending, inputs.Course .clone taken ending ∧
      (stepsOf taken).Nodup ∧
      calls said.1 = callsOf taken ∧
      (calls said.1).map Exchange.question =
        (stepsOf taken).flatMap (inputs.operations (.checkoutBase ∈ stepsOf taken)) ∧
      said.2 = resultOf taken ending ∧
      ∀ steps, said.2 = .ok steps → ∃ occupied baseIsLocal untracked missing,
        steps = route occupied baseIsLocal untracked missing ∧
          inputs.Met said.1 occupied baseIsLocal untracked missing := by
  intro said
  obtain ⟨taken, ending, hcourse, hcalls, hresult⟩ :=
    course_of_leads (Dialogue.leads_transcript repository past inputs.run.run)
  refine ⟨taken, ending, hcourse, hcourse.nodup, hcalls, ?_, hresult, fun steps hsteps => ?_⟩
  · rw [hcalls]
    exact hcourse.questions
  · rw [hresult] at hsteps
    cases ending with
    | none =>
        obtain ⟨steering, rfl⟩ := hcourse.steered
        obtain ⟨occupied, baseIsLocal, untracked, missing, hroute, hmet⟩ := steering.route_met inputs
        refine ⟨occupied, baseIsLocal, untracked, missing, ?_, ?_⟩
        · rw [← Except.ok.inj hsteps, hroute]
        · rw [← hcalls] at hmet
          exact hmet.of_calls
    | some failure => exact absurd hsteps nofun

end PullRequestBot.Git.Branching
