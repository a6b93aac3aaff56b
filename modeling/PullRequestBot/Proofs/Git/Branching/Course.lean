import PullRequestBot.Proofs.Git.Branching.Turn

set_option autoImplicit false

/-! # Whole runs of branching

A run is a course of turns, each a step with the operations that it called (`course_of_leads`). Since
the rank falls from step to step, no step is taken twice (`Course.nodup`). A course that ends well is
one of a few that `Steering` lists: four answers fix all of its turns (`Course.steered`). -/

namespace PullRequestBot.Git.Branching

open Dialogue (Exchange)

variable {inputs : Branching} {step : Step}

/-! ## Courses -/

/-- A step that was carried out, with the operations that it called. -/
abbrev Taken := Step × List Said

/-- The steps carried out one after the other, and the failure at the end, if there is one. -/
inductive Course (inputs : Branching) : Step → List Taken → Option Failure → Prop where
  | ended {step : Step} {said : List Said}
      (turn : (inputs.advance step).run.Leads said (.ok none)) :
      Course inputs step [(step, calls said)] none
  | failed {step : Step} {said : List Said} {failure : Failure}
      (turn : (inputs.advance step).run.Leads said (.error failure)) :
      Course inputs step [(step, calls said)] (some failure)
  | went {step : Step} {said : List Said} {next : { next : Step // next.rank < step.rank }}
      {later : List Taken} {ending : Option Failure}
      (turn : (inputs.advance step).run.Leads said (.ok (some next)))
      (rest : Course inputs next.val later ending) :
      Course inputs step ((step, calls said) :: later) ending

/-- The steps of a course, in order. -/
def stepsOf (taken : List Taken) : List Step :=
  taken.map Prod.fst

/-- The operations called on a course, in order. -/
def callsOf (taken : List Taken) : List Said :=
  taken.flatMap Prod.snd

theorem stepsOf_cons (step : Step) (now : List Said) (later : List Taken) :
    stepsOf ((step, now) :: later) = step :: stepsOf later := rfl

theorem callsOf_cons (step : Step) (now : List Said) (later : List Taken) :
    callsOf ((step, now) :: later) = now ++ callsOf later := rfl

/-- What a run answers at the end of a course. -/
def resultOf (taken : List Taken) : Option Failure → Except Failure (List Step)
  | none => .ok (stepsOf taken)
  | some failure => .error failure

theorem resultOf_cons (step : Step) (now : List Said) (later : List Taken)
    (ending : Option Failure) :
    resultOf ((step, now) :: later) ending = (resultOf later ending).map (List.cons step) := by
  cases ending with
  | none | some failure => rfl

/-- A run from a step on is a course. -/
theorem course_of_leads_runFrom {said : List Said} {result : Except Failure (List Step)}
    (h : (inputs.runFrom step).run.Leads said result) :
    ∃ taken ending, inputs.Course step taken ending ∧ calls said = callsOf taken ∧
      result = resultOf taken ending := by
  induction step using runFrom.induct generalizing said result with
  | case1 step ih =>
      rw [runFrom] at h
      rcases Dialogue.leads_run_bind_iff.1 h with
        ⟨failure, rfl, hturn⟩ | ⟨before, next, after, rfl, hturn, h⟩
      · exact ⟨_, some failure, .failed hturn, (List.append_nil _).symm, rfl⟩
      · cases next with
        | none =>
            obtain ⟨rfl, rfl⟩ := Dialogue.leads_done_iff.1 h
            refine ⟨_, none, .ended hturn, ?_, rfl⟩
            rw [List.append_nil]
            exact (List.append_nil _).symm
        | some next =>
            obtain ⟨steps, hrest, rfl⟩ := Dialogue.leads_run_bind_pure_iff.1 h
            obtain ⟨later, ending, hcourse, hcalls, rfl⟩ := ih _ next.property hrest
            refine ⟨_, ending, .went hturn hcourse, ?_, (resultOf_cons ..).symm⟩
            rw [calls_append, hcalls]
            rfl

/-- **A run is a course** from the first step on. -/
theorem course_of_leads {said : List Said} {result : Except Failure (List Step)}
    (h : inputs.run.run.Leads said result) :
    ∃ taken ending, inputs.Course .clone taken ending ∧ calls said = callsOf taken ∧
      result = resultOf taken ending := by
  rw [run] at h
  rcases Dialogue.leads_run_bind_iff.1 h with
    ⟨failure, rfl, hfailed⟩ | ⟨before, steps, after, rfl, hsteps, h⟩
  · exact course_of_leads_runFrom hfailed
  · obtain ⟨hquiet, rfl⟩ := leads_tell_return h
    rw [calls_append, hquiet, List.append_nil]
    exact course_of_leads_runFrom hsteps

/-! ## No step is taken twice -/

/-- The steps of a course rank no higher than its first one. -/
theorem Course.rank_le {taken : List Taken} {ending : Option Failure}
    (h : inputs.Course step taken ending) : ∀ later ∈ stepsOf taken, later.rank ≤ step.rank := by
  induction h with
  | ended _ | failed _ => exact List.forall_mem_singleton.2 (Nat.le_refl _)
  | @went step _ next _ _ _ _ ih =>
      intro later hlater
      rcases List.mem_cons.1 hlater with rfl | hlater
      · exact Nat.le_refl _
      · exact Nat.le_of_lt (Nat.lt_of_le_of_lt (ih later hlater) next.property)

/-- **No step is taken twice.** -/
theorem Course.nodup {taken : List Taken} {ending : Option Failure}
    (h : inputs.Course step taken ending) : (stepsOf taken).Nodup := by
  induction h with
  | ended _ | failed _ => exact List.pairwise_singleton ..
  | @went step _ next _ _ _ rest ih =>
      refine List.nodup_cons.2 ⟨fun hagain => ?_, ih⟩
      exact absurd (rest.rank_le step hagain) (Nat.not_le.2 next.property)

/-! ## The operations of a course -/

/-- The operations that a step calls. The search for the base branch ends where a local one is
    found. -/
def operations (inputs : Branching) (baseIsLocal : Bool) (step : Step) :
    List Repository.Question :=
  let found := localBranchRef inputs.baseBranch
  match step with
  | .clone => [.clone inputs.originUrl inputs.directory]
  | .resetExisting => [.hardReset inputs.directory "HEAD"]
  | .addParent => [.addRemote inputs.directory parentRemote inputs.parentUrl]
  | .fetch => [.fetchAll inputs.directory]
  | .resolveBase =>
    if baseIsLocal then [.refExists inputs.directory found]
    else [.refExists inputs.directory found,
      .refExists inputs.directory (trackingRef inputs.parentBase)]
  | .checkoutBase => [.checkout inputs.directory inputs.baseBranch false]
  | .trackBase => [.checkout inputs.directory inputs.parentBase true]
  | .createBase => [.checkoutNew inputs.directory inputs.baseBranch inputs.parentBase]
  | .resetToParent => [.hardReset inputs.directory inputs.parentBase]
  | .checkoutNewBranch => [.checkout inputs.directory inputs.newBranch false]
  | .createNewBranch => [.checkoutNew inputs.directory inputs.newBranch inputs.baseBranch]

theorem questions_called (hsearch : step ≠ .resolveBase) (answer : Except Failure Unit)
    (baseIsLocal : Bool) :
    (inputs.called answer step).map Exchange.question = inputs.operations baseIsLocal step := by
  cases step with
  | resolveBase => exact absurd rfl hsearch
  | _ => rfl

/-- The operations of a turn. A search for the base branch that finds a local one goes on by checking
    it out. -/
theorem Turn.questions {now : List Said} {result : Except Failure (Option Step)}
    {baseIsLocal : Bool} (h : inputs.Turn step now result)
    (hbase : step = .resolveBase → (baseIsLocal = true ↔ result = .ok (some .checkoutBase))) :
    now.map Exchange.question = inputs.operations baseIsLocal step := by
  cases h with
  | passed hsearch => exact questions_called hsearch _ _
  | recovered failure hknown =>
      refine questions_called ?_ _ _
      rintro rfl
      exact absurd hknown nofun
  | failed failure hsearch _ => exact questions_called hsearch _ _
  | foundLocal =>
      rw [(hbase rfl).2 rfl]
      rfl
  | notLocal tracking =>
      have hfalse : baseIsLocal = false := by
        rw [← Bool.not_eq_true, hbase rfl]
        nofun
      rw [hfalse]
      rfl

theorem Course.mem_first {taken : List Taken} {ending : Option Failure}
    (h : inputs.Course step taken ending) : step ∈ stepsOf taken := by
  cases h with
  | ended _ | failed _ | went _ _ => exact List.mem_cons_self

/-- After the search, the base branch is checked out if and only if that is the next step. -/
theorem Course.checkoutBase_mem_iff {taken : List Taken} {ending : Option Failure}
    (h : inputs.Course step taken ending) (hrank : step.rank ≤ Step.checkoutBase.rank) :
    .checkoutBase ∈ stepsOf taken ↔ step = .checkoutBase := by
  constructor
  · intro hmem
    have hle := h.rank_le _ hmem
    cases step with
    | checkoutBase => rfl
    | _ => exact absurd (And.intro hle hrank) (by decide)
  · rintro rfl
    exact h.mem_first

/-- The operations of a course are those of its steps, if it is known whether the search for the base
    branch finds a local one. -/
theorem Course.questions_of_base {taken : List Taken} {ending : Option Failure} {baseIsLocal : Bool}
    (h : inputs.Course step taken ending)
    (hbase : .resolveBase ∈ stepsOf taken →
      (baseIsLocal = true ↔ .checkoutBase ∈ stepsOf taken)) :
    (callsOf taken).map Exchange.question =
      (stepsOf taken).flatMap (inputs.operations baseIsLocal) := by
  induction h with
  | @ended step _ turn | @failed step _ _ turn =>
      have hturn := (turn_of_leads turn).questions fun hstep => by
        rw [hbase (hstep ▸ List.mem_cons_self), stepsOf_cons, hstep]
        exact iff_of_false (by decide) nofun
      rw [callsOf_cons, stepsOf_cons, List.map_append, List.flatMap_cons, hturn]
      rfl
  | @went step said next later ending turn rest ih =>
      have hturn := (turn_of_leads turn).questions fun hstep => by
        subst hstep
        have hrank : next.val.rank ≤ Step.checkoutBase.rank := Nat.le_of_lt_succ next.property
        rw [hbase List.mem_cons_self, stepsOf_cons, List.mem_cons, or_iff_right (by decide),
          rest.checkoutBase_mem_iff hrank]
        exact ⟨fun h => h ▸ rfl, fun h => Option.some.inj (Except.ok.inj h)⟩
      have hlater := ih fun hsearch => by
        have hstep : Step.checkoutBase ≠ step := by
          rintro rfl
          have hrank := Nat.lt_of_le_of_lt (rest.rank_le _ hsearch) next.property
          exact absurd hrank (by decide)
        rw [hbase (List.mem_cons_of_mem _ hsearch), stepsOf_cons, List.mem_cons,
          or_iff_right hstep]
      rw [callsOf_cons, stepsOf_cons, List.map_append, List.flatMap_cons, hturn, hlater]

/-- **The operations of a course are those of its steps**, in order. -/
theorem Course.questions {taken : List Taken} {ending : Option Failure}
    (h : inputs.Course step taken ending) :
    (callsOf taken).map Exchange.question =
      (stepsOf taken).flatMap (inputs.operations (.checkoutBase ∈ stepsOf taken)) :=
  h.questions_of_base fun _ => decide_eq_true_iff

end PullRequestBot.Git.Branching
