import PullRequestBot.Proofs.Git.Branching.Route

set_option autoImplicit false

/-! # Failures of a run of branching

A run fails exactly when an operation was answered with a failure that its step does not recover from;
the failure comes out as it is, and nothing is called after it (`run_fails_iff`). The step and the kind
of failure decide together which failures are recovered from (`Recoverable`): the same failure at
another step ends the run.

Which step an answer belongs to is told by the course of the run, and a run has one course only
(`Course.unique`). -/

namespace PullRequestBot.Git.Branching

open Dialogue (Exchange Oracle)

variable {inputs : Branching} {step : Step} {taken : List Taken}

/-! ## Failures and recovery -/

/-- The failure that an operation was answered with, if it failed. Telling and looking up never fail. -/
def failureOf : Said → Option Failure
  | ⟨.tell _, _⟩ | ⟨.refExists _ _, _⟩ => none
  | ⟨.clone _ _, answer⟩ | ⟨.hardReset _ _, answer⟩ | ⟨.addRemote _ _ _, answer⟩
  | ⟨.fetchAll _, answer⟩ | ⟨.checkout _ _ _, answer⟩ | ⟨.checkoutNew _ _ _, answer⟩ =>
    match answer with
    | .ok _ => none
    | .error failure => some failure

/-- The failures that a step recovers from. -/
inductive Recoverable : Step → Failure → Prop where
  | targetNotEmpty (path : String) : Recoverable .clone (.git (.targetNotEmpty path))
  | remoteExists (name : String) : Recoverable .addParent (.git (.remoteExists name))
  | untracked (failure : GitFailure) : Recoverable .trackBase (.git failure)
  | branchNotFound (branch : String) :
      Recoverable .checkoutNewBranch (.git (.branchNotFound branch))

theorem recoverable_of_recovery {failure : Failure} {next : Step}
    (h : recovery step failure = some next) : Recoverable step failure := by
  have hrecovers := recovers_of_recovery h
  cases step with
  | clone =>
      obtain ⟨-, path, rfl⟩ := hrecovers
      exact .targetNotEmpty path
  | addParent =>
      obtain ⟨-, name, rfl⟩ := hrecovers
      exact .remoteExists name
  | trackBase =>
      obtain ⟨-, failure, rfl⟩ := hrecovers
      exact .untracked failure
  | checkoutNewBranch =>
      obtain ⟨-, branch, rfl⟩ := hrecovers
      exact .branchNotFound branch
  | _ => exact absurd hrecovers id

theorem not_recoverable_of_recovery {failure : Failure} (h : recovery step failure = none) :
    ¬ Recoverable step failure := by
  intro hrecoverable
  cases hrecoverable with
  | targetNotEmpty _ | remoteExists _ | untracked _ | branchNotFound _ => exact absurd h nofun

/-- Every failure among the answers of the turns is one that its step recovers from. -/
def Recovered (taken : List Taken) : Prop :=
  ∀ turn ∈ taken, ∀ exchange ∈ turn.2, ∀ failure,
    failureOf exchange = some failure → Recoverable turn.1 failure

/-- An answer among those of the turns is a failure that its step does not recover from. -/
def FailsWith (taken : List Taken) (failure : Failure) : Prop :=
  ∃ turn ∈ taken, ∃ exchange ∈ turn.2,
    failureOf exchange = some failure ∧ ¬ Recoverable turn.1 failure

theorem Recovered.not_failsWith (h : Recovered taken) (failure : Failure) :
    ¬ FailsWith taken failure := by
  rintro ⟨turn, hturn, exchange, hexchange, hfailure, hnot⟩
  exact hnot (h turn hturn exchange hexchange failure hfailure)

theorem recovered_cons {turn : Taken} {later : List Taken} :
    Recovered (turn :: later) ↔ Recovered [turn] ∧ Recovered later := by
  simp only [Recovered, List.forall_mem_cons, List.not_mem_nil, false_implies, implies_true, and_true]

/-! ## The failures of a turn -/

/-- A step other than the search calls one operation, and passes on the answer. -/
theorem called_eq (inputs : Branching) (hsearch : step ≠ .resolveBase)
    (answer : Except Failure Unit) :
    ∃ exchange, inputs.called answer step = [exchange] ∧
      ∀ failure, failureOf exchange = some failure ↔ answer = .error failure := by
  cases answer with
  | ok _ =>
      cases step with
      | resolveBase => exact absurd rfl hsearch
      | _ => exact ⟨_, rfl, fun failure => iff_of_false nofun nofun⟩
  | error failure =>
      cases step with
      | resolveBase => exact absurd rfl hsearch
      | _ => exact ⟨_, rfl, fun failure => by simp [failureOf]⟩

/-- A turn that goes on met no failure but one that its step recovers from. -/
theorem Turn.recovered_of_ok {now : List Said} {next : Option Step} (h : inputs.Turn step now (.ok next)) :
    Recovered [(step, now)] := by
  intro turn hturn exchange hexchange failure hfailure
  obtain rfl := List.mem_singleton.1 hturn
  cases h with
  | passed hsearch =>
      obtain ⟨called, hcalled, hanswer⟩ := inputs.called_eq hsearch (.ok ())
      rw [hcalled] at hexchange
      rw [List.mem_singleton.1 hexchange, hanswer] at hfailure
      cases hfailure
  | recovered met hknown =>
      have hsearch : step ≠ .resolveBase := by
        rintro rfl
        cases hknown
      obtain ⟨called, hcalled, hanswer⟩ := inputs.called_eq hsearch (.error met)
      rw [hcalled] at hexchange
      rw [List.mem_singleton.1 hexchange, hanswer] at hfailure
      obtain rfl := Except.error.inj hfailure
      exact recoverable_of_recovery hknown
  | foundLocal | notLocal _ =>
      simp only [List.mem_cons, List.not_mem_nil, or_false] at hexchange
      rcases hexchange with rfl | rfl <;> cases hfailure

/-- A turn that fails was answered with that failure, by the one operation that it called. -/
theorem Turn.failure_of_error {now : List Said} {failure : Failure}
    (h : inputs.Turn step now (.error failure)) :
    ∃ exchange, now = [exchange] ∧ failureOf exchange = some failure ∧ ¬ Recoverable step failure := by
  cases h with
  | failed _ hsearch hunknown =>
      obtain ⟨exchange, hcalled, hanswer⟩ := inputs.called_eq hsearch (.error failure)
      exact ⟨exchange, hcalled, (hanswer failure).2 rfl, not_recoverable_of_recovery hunknown⟩

/-! ## The failure of a course -/

/-- A course that ends well met no failure but those that were recovered from. -/
theorem Course.recovered (h : inputs.Course step taken none) : Recovered taken := by
  generalize hending : (none : Option Failure) = ending at h
  induction h with
  | ended turn => exact (turn_of_leads turn).recovered_of_ok
  | failed _ => exact absurd hending nofun
  | went turn _ ih => exact recovered_cons.2 ⟨(turn_of_leads turn).recovered_of_ok, ih hending⟩

/-- A course that fails ends with the operation that was answered with the failure; every failure before
    was recovered from. -/
theorem Course.failure_last {failure : Failure} (h : inputs.Course step taken (some failure)) :
    ∃ earlier last exchange, taken = earlier ++ [(last, [exchange])] ∧ Recovered earlier ∧
      failureOf exchange = some failure ∧ ¬ Recoverable last failure := by
  generalize hending : some failure = ending at h
  induction h with
  | ended _ => exact absurd hending nofun
  | @failed step _ _ turn =>
      obtain rfl := Option.some.inj hending
      obtain ⟨exchange, hcalled, hfailure, hnot⟩ := (turn_of_leads turn).failure_of_error
      refine ⟨[], step, exchange, by rw [hcalled]; rfl, nofun, hfailure, hnot⟩
  | went turn _ ih =>
      obtain ⟨earlier, last, exchange, rfl, hrecovered, hfailure, hnot⟩ := ih hending
      have hnow := (turn_of_leads turn).recovered_of_ok
      exact ⟨_ :: earlier, last, exchange, rfl, recovered_cons.2 ⟨hnow, hrecovered⟩, hfailure, hnot⟩

/-- A course ends with a failure if and only if an answer was that failure and its step does not recover
    from it. -/
theorem Course.ending_iff {ending : Option Failure} (h : inputs.Course step taken ending)
    (failure : Failure) : ending = some failure ↔ FailsWith taken failure := by
  cases ending with
  | none => exact iff_of_false nofun (h.recovered.not_failsWith failure)
  | some met =>
      obtain ⟨earlier, last, exchange, rfl, hrecovered, hfailure, hnot⟩ := h.failure_last
      constructor
      · rintro ⟨⟩
        exact ⟨_, List.mem_append_right _ List.mem_cons_self, exchange, List.mem_cons_self, hfailure,
          hnot⟩
      · rintro ⟨turn, hturn, answer, hanswer, hmet, hunknown⟩
        rcases List.mem_append.1 hturn with hearlier | hlast
        · exact absurd (hrecovered turn hearlier answer hanswer failure hmet) hunknown
        · obtain rfl := List.mem_singleton.1 hlast
          obtain rfl := List.mem_singleton.1 hanswer
          rw [← hfailure, hmet]

/-! ## A run has one course -/

/-- A step other than the search does what the answer to its operation says. -/
theorem Turn.eq_reply {now : List Said} {result : Except Failure (Option Step)}
    (h : inputs.Turn step now result) (hsearch : step ≠ .resolveBase) :
    ∃ answer, now = inputs.called answer step ∧ result = reply step answer := by
  cases h with
  | passed _ => exact ⟨.ok (), rfl, rfl⟩
  | recovered failure hknown => exact ⟨.error failure, rfl, by rw [reply, hknown]⟩
  | failed failure _ hunknown => exact ⟨.error failure, rfl, (reply_of_unknown hunknown).symm⟩
  | foundLocal | notLocal _ => exact absurd rfl hsearch

theorem called_append_inj {answer answer' : Except Failure Unit} {rest rest' : List Said}
    (hsearch : step ≠ .resolveBase)
    (h : inputs.called answer step ++ rest = inputs.called answer' step ++ rest') :
    answer = answer' ∧ rest = rest' := by
  cases step with
  | resolveBase => exact absurd rfl hsearch
  | _ =>
      obtain ⟨hfirst, hrest⟩ := List.cons.inj h
      exact ⟨by injection hfirst, hrest⟩

/-- The answers at the front fix a turn and what follows it. -/
theorem Turn.unique {now now' : List Said} {result result' : Except Failure (Option Step)}
    {rest rest' : List Said} (h : inputs.Turn step now result) (h' : inputs.Turn step now' result')
    (hsaid : now ++ rest = now' ++ rest') : now = now' ∧ result = result' ∧ rest = rest' := by
  by_cases hsearch : step = .resolveBase
  · subst hsearch
    cases h with
    | passed hsearch | failed _ hsearch _ => exact absurd rfl hsearch
    | recovered _ hknown => exact absurd hknown nofun
    | foundLocal | notLocal _ =>
        cases h' with
        | passed hsearch | failed _ hsearch _ => exact absurd rfl hsearch
        | recovered _ hknown => exact absurd hknown nofun
        | foundLocal | notLocal _ => simp_all [lookedUpLocal, lookedUpTracking]
  · obtain ⟨answer, rfl, rfl⟩ := h.eq_reply hsearch
    obtain ⟨answer', rfl, rfl⟩ := h'.eq_reply hsearch
    obtain ⟨rfl, rfl⟩ := called_append_inj hsearch hsaid
    exact ⟨rfl, rfl, rfl⟩

/-- A run has one course: the answers fix the steps and the ending. -/
theorem Course.unique {taken' : List Taken} {ending ending' : Option Failure}
    (h : inputs.Course step taken ending) (h' : inputs.Course step taken' ending')
    (hcalls : callsOf taken = callsOf taken') : taken = taken' ∧ ending = ending' := by
  induction h generalizing taken' ending' with
  | ended turn =>
      cases h' with
      | ended turn' =>
          obtain ⟨hnow, -, -⟩ := (turn_of_leads turn).unique (turn_of_leads turn') hcalls
          rw [hnow]
          exact ⟨rfl, rfl⟩
      | failed turn' | went turn' _ =>
          obtain ⟨-, hresult, -⟩ := (turn_of_leads turn).unique (turn_of_leads turn') hcalls
          exact absurd hresult nofun
  | failed turn =>
      cases h' with
      | ended turn' | went turn' _ =>
          obtain ⟨-, hresult, -⟩ := (turn_of_leads turn).unique (turn_of_leads turn') hcalls
          exact absurd hresult nofun
      | failed turn' =>
          obtain ⟨hnow, hresult, -⟩ := (turn_of_leads turn).unique (turn_of_leads turn') hcalls
          rw [hnow, Except.error.inj hresult]
          exact ⟨rfl, rfl⟩
  | @went step _ next _ _ turn _ ih =>
      cases h' with
      | ended turn' | failed turn' =>
          obtain ⟨-, hresult, -⟩ := (turn_of_leads turn).unique (turn_of_leads turn') hcalls
          exact absurd hresult nofun
      | @went _ _ next' _ _ turn' rest' =>
          obtain ⟨hnow, hresult, hlater⟩ := (turn_of_leads turn).unique (turn_of_leads turn') hcalls
          have hnext : next = next' := Subtype.ext (Option.some.inj (Except.ok.inj hresult))
          subst hnext
          obtain ⟨rfl, rfl⟩ := ih rest' hlater
          rw [hnow]
          exact ⟨rfl, rfl⟩

/-! ## Runs -/

/-- **A run passes failures on as they are.** Whatever the repository answers, the run has one course. It
    fails with a failure if and only if some operation was answered with that failure at a step that does
    not recover from it. That answer is then the last one, and all failures before it were recovered
    from. -/
theorem run_fails_iff (inputs : Branching) (repository : Oracle Repository.Answer)
    (past : List Said) :
    let said := inputs.run.run.transcript repository past
    ∃ taken ending, inputs.Course .clone taken ending ∧ calls said.1 = callsOf taken ∧
      (∀ taken' ending', inputs.Course .clone taken' ending' → calls said.1 = callsOf taken' →
        taken' = taken ∧ ending' = ending) ∧
      (∀ failure, said.2 = .error failure ↔ FailsWith taken failure) ∧
      ∀ failure, said.2 = .error failure → ∃ earlier last exchange,
        taken = earlier ++ [(last, [exchange])] ∧
          calls said.1 = callsOf earlier ++ [exchange] ∧
          failureOf exchange = some failure ∧ ¬ Recoverable last failure ∧ Recovered earlier := by
  intro said
  obtain ⟨taken, ending, hcourse, hcalls, hresult⟩ :=
    course_of_leads (Dialogue.leads_transcript repository past inputs.run.run)
  have hending : ∀ failure, said.2 = .error failure ↔ ending = some failure := by
    intro failure
    rw [show said.2 = resultOf taken ending from hresult]
    cases ending with
    | none => exact iff_of_false nofun nofun
    | some met => simp [resultOf]
  refine ⟨taken, ending, hcourse, hcalls, ?_, ?_, ?_⟩
  · intro taken' ending' hcourse' hcalls'
    exact hcourse'.unique hcourse (hcalls'.symm.trans hcalls)
  · intro failure
    rw [hending, hcourse.ending_iff]
  · intro failure hfailure
    rw [(hending failure).1 hfailure] at hcourse
    obtain ⟨earlier, last, exchange, rfl, hrecovered, hlast, hnot⟩ := hcourse.failure_last
    refine ⟨earlier, last, exchange, rfl, ?_, hlast, hnot, hrecovered⟩
    rw [hcalls, callsOf, List.flatMap_append]
    rfl

end PullRequestBot.Git.Branching
