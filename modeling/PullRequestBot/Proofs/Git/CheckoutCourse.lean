import PullRequestBot.Proofs.Git.RunCourse

set_option autoImplicit false

/-! # Why a checkout was refused

A checkout that git refuses is looked into: one more process asks whether the reference is there. If that
process does not succeed, for whatever reason, the reference counts as missing; if it does, the checkout
fails as any other command does (`checkout_takes_its_course`). -/

namespace PullRequestBot.Git.Client

open Dialogue (Exchange Leads Oracle)
open Host (Ran RefusesLock ask ran tell)

variable {α : Type} {client : Client} {directory branch : String} {track : Bool}
  {said : List (Exchange Host.Answer)}

/-! ## Looking for a reference -/

/-- A process has found what it was to look for. -/
def Finds (result : Except SystemFailure Host.Outcome) : Prop :=
  ∃ outcome, result = .ok outcome ∧ outcome.exitCode = 0

/-- What keeps a look from being taken: the directory is not there, or the lock is refused. -/
def PreventsLook (directory : String) (exchange : Exchange Host.Answer) : Prop :=
  (∃ cause, RefusesLock cause exchange) ∨ ∃ kind, exchange = ⟨.fileKind directory, kind⟩ ∧ kind ≠ some .directory

/-- A probe starts one process and tells whether it finds anything, or it is prevented and tells that
    nothing is found. -/
theorem leads_probe {command : Command} {found : Bool}
    (h : (client.probe (some directory) command).Leads said found) :
    (ran said = [] ∧ found = false ∧ ∃ exchange ∈ said, PreventsLook directory exchange) ∨
      ∃ result, ran said = [⟨command.arguments, some directory, result⟩] ∧ (found = true ↔ Finds result) := by
  obtain ⟨kind, later, rfl, hlook⟩ := Dialogue.leads_ask_iff.1 h
  change ran later = [] ∧ _ ∨ ∃ result, ran later = _ ∧ _
  change (if kind ≠ some .directory then pure false else _ : Job Bool).Leads later found at hlook
  split at hlook
  · next hkind =>
    obtain ⟨rfl, rfl⟩ := Dialogue.leads_done_iff.1 hlook
    exact Or.inl ⟨rfl, rfl, _, List.mem_singleton_self _, Or.inr ⟨kind, rfl, hkind⟩⟩
  · obtain ⟨before, result, after, rfl, hrun, hfound⟩ := Dialogue.leads_bind_iff.1 hlook
    cases Runner.course_of_leads hrun with
    | locked hnone _ hrefused =>
        obtain ⟨rfl, rfl⟩ := Dialogue.leads_done_iff.1 hfound
        obtain ⟨exchange, hmem, hrefuses⟩ := hrefused
        exact Or.inl ⟨by simp [hnone], rfl, exchange, by simp [hmem], Or.inl ⟨_, hrefuses⟩⟩
    | @unstarted cause _ hone _ =>
        obtain ⟨rfl, rfl⟩ := Dialogue.leads_done_iff.1 hfound
        refine Or.inr ⟨.error cause, by simp [hone], iff_of_false nofun ?_⟩
        rintro ⟨outcome, hresult, -⟩
        exact absurd hresult nofun
    | @passed outcome hone _ =>
        obtain ⟨rfl, rfl⟩ := Dialogue.leads_done_iff.1 hfound
        refine Or.inr ⟨.ok outcome, by simp [hone], ?_⟩
        simp [Finds, Runner.outputOf, Output.isSuccess]
    -- a probe accepts every exit code
    | refused _ hrefused => exact absurd (Or.inr rfl) hrefused

/-! ## Checkouts -/

/-- The reference that has to be there for a checkout. -/
def neededRef (branch : String) (track : Bool) : String :=
  if track then trackingRef branch else localBranchRef branch

/-- The failure of a checkout whose reference is missing. -/
def missingRef (client : Client) (branch : String) (track : Bool) : GitFailure :=
  if track then .trackingRefMissing (client.runner.redact (trackingRef branch))
  else .branchNotFound (client.runner.redact branch)

/-- The first process of a checkout. -/
def triedCheckout (directory branch : String) (track : Bool)
    (result : Except SystemFailure Host.Outcome) : Ran :=
  ⟨(Command.checkout branch track).arguments, some directory, result⟩

/-- The process that looks for the reference. -/
def lookedForRef (directory branch : String) (track : Bool)
    (result : Except SystemFailure Host.Outcome) : Ran :=
  ⟨(Command.showRef (neededRef branch track)).arguments, some directory, result⟩

/-- How a checkout goes: what it says, and how it ends. -/
inductive CheckoutCourse (client : Client) (directory branch : String) (track : Bool) :
    List (Exchange Host.Answer) → Except Failure Unit → Prop where
  /-- The lock is refused, and nothing is started. -/
  | locked {said : List (Exchange Host.Answer)} {path : String} {cause : SystemFailure}
      (hran : ran said = []) (hlock : client.runner.lock = .file path)
      (hrefused : ∃ exchange ∈ said, RefusesLock cause exchange) :
      CheckoutCourse client directory branch track said (.error (.git (.lock path cause)))
  /-- Git cannot be started, and no look is taken. -/
  | unstarted {said : List (Exchange Host.Answer)} {cause : SystemFailure} {reason : GitFailure}
      (hran : ran said = [triedCheckout directory branch track (.error cause)])
      (hreason : client.runner.StartReason (Command.checkout branch track).arguments (some directory) cause
        said reason) :
      CheckoutCourse client directory branch track said (.error (.git reason))
  /-- Git checks the branch out. -/
  | switched {said : List (Exchange Host.Answer)} {outcome : Host.Outcome}
      (hran : ran said = [triedCheckout directory branch track (.ok outcome)])
      (hcode : outcome.exitCode = 0) :
      CheckoutCourse client directory branch track said (.ok ())
  /-- Git refuses, although the reference is there. -/
  | refused {said : List (Exchange Host.Answer)} {outcome : Host.Outcome}
      {look : Except SystemFailure Host.Outcome}
      (hran : ran said = [triedCheckout directory branch track (.ok outcome),
        lookedForRef directory branch track look])
      (hcode : outcome.exitCode ≠ 0) (hfound : Finds look) :
      CheckoutCourse client directory branch track said
        (.error (.git (.commandFailed
          (client.runner.failureMessage (Command.checkout branch track).arguments)
          (some outcome.exitCode))))
  /-- Git refuses, and the look does not find the reference. -/
  | missing {said : List (Exchange Host.Answer)} {outcome : Host.Outcome}
      {look : Except SystemFailure Host.Outcome}
      (hran : ran said = [triedCheckout directory branch track (.ok outcome),
        lookedForRef directory branch track look])
      (hcode : outcome.exitCode ≠ 0) (hmissing : ¬ Finds look) :
      CheckoutCourse client directory branch track said (.error (.git (client.missingRef branch track)))
  /-- Git refuses, and no look can be taken any more. -/
  | unseen {said : List (Exchange Host.Answer)} {outcome : Host.Outcome}
      (hran : ran said = [triedCheckout directory branch track (.ok outcome)])
      (hcode : outcome.exitCode ≠ 0) (hprevented : ∃ exchange ∈ said, PreventsLook directory exchange) :
      CheckoutCourse client directory branch track said (.error (.git (client.missingRef branch track)))

/-- The failure of a refused command starts nothing. -/
theorem leads_failed {command : Command} {exitCode : Int} {result : Except Failure α}
    (h : (client.failed command exitCode : Attempt α).run.Leads said result) :
    ran said = [] ∧ result = .error (.git (.commandFailed
      (client.runner.failureMessage command.arguments) (some exitCode))) := by
  obtain ⟨told, _, _, rfl, htold, hfails⟩ := Dialogue.leads_run_lift_bind_iff.1 h
  obtain ⟨rfl, rfl⟩ := Dialogue.leads_done_iff.1 hfails
  exact ⟨by simp [Runner.ran_of_isEvent Runner.always_tell htold], rfl⟩

/-- Every checkout takes one of these courses. -/
theorem checkoutCourse_of_leads {result : Except Failure Unit}
    (h : (client.checkout directory branch track).run.Leads said result) :
    CheckoutCourse client directory branch track said result := by
  unfold checkout at h
  rcases Dialogue.leads_run_bind_iff.1 h with ⟨failure, rfl, hrun⟩ | ⟨first, output, later, rfl, hrun, hrest⟩
  · cases Runner.course_of_leads hrun with
    | locked hran hlock hrefused => exact .locked hran hlock hrefused
    | unstarted hran hreason => exact .unstarted hran hreason
    | refused _ hrefused => exact absurd (Or.inr rfl) hrefused
  · obtain ⟨outcome, hfirst, -, rfl⟩ := Runner.passed_of_leads hrun
    have hsuccess : (client.runner.outputOf { allowsFailure := true } outcome).isSuccess =
        (outcome.exitCode == 0) := rfl
    dsimp only at hrest
    rw [hsuccess] at hrest
    split at hrest
    · next hfails =>
      have hcode : outcome.exitCode ≠ 0 := by simpa using hfails
      obtain ⟨looked, there, after, rfl, hlook, hend⟩ := Dialogue.leads_run_lift_bind_iff.1 hrest
      cases there with
      | true =>
        obtain ⟨hafter, rfl⟩ := leads_failed hend
        rcases leads_probe hlook with ⟨-, hnone, -⟩ | ⟨look, hran, hfinds⟩
        · exact absurd hnone nofun
        · have hboth : ran (first ++ (looked ++ after)) = [triedCheckout directory branch track (.ok outcome),
              lookedForRef directory branch track look] := by
            simp [hfirst, hran, hafter, triedCheckout, lookedForRef, neededRef]
          exact .refused hboth hcode (hfinds.1 rfl)
      | false =>
        have hmissing : after = [] ∧ result = .error (.git (client.missingRef branch track)) := by
          cases track with
          | true | false => exact Dialogue.leads_done_iff.1 hend
        obtain ⟨rfl, rfl⟩ := hmissing
        rcases leads_probe hlook with ⟨hran, -, exchange, hmem, hprevents⟩ | ⟨look, hran, hfinds⟩
        · have hone : ran (first ++ (looked ++ [])) = [triedCheckout directory branch track (.ok outcome)] := by
            simp [hfirst, hran, triedCheckout]
          exact .unseen hone hcode ⟨exchange, by simp [hmem], hprevents⟩
        · have hboth : ran (first ++ (looked ++ [])) = [triedCheckout directory branch track (.ok outcome),
              lookedForRef directory branch track look] := by
            simp [hfirst, hran, triedCheckout, lookedForRef, neededRef]
          exact .missing hboth hcode fun hfound => absurd (hfinds.2 hfound) nofun
    · next hpasses =>
      obtain ⟨rfl, rfl⟩ := Dialogue.leads_done_iff.1 hrest
      have hone : ran (first ++ []) = [triedCheckout directory branch track (.ok outcome)] := by
        simp [hfirst, triedCheckout]
      exact .switched hone (by simpa using hpasses)

/-- **A refused checkout is looked into.** Whatever the host answers, a checkout takes one of the courses:
    nothing is started and the lock is refused; git cannot be started, and that is the failure; git succeeds;
    or git ends with any other exit code or by a signal, and one more process looks for the reference, unless
    the directory is gone or the lock is refused by then. If the look finds the reference, the failure is the
    one with which the command, run for its success, fails on the same end of the process; else the reference
    is missing, the remote-tracking one with tracking and the local branch without. -/
theorem checkout_takes_its_course (client : Client) (directory branch : String) (track : Bool)
    (host : Oracle Host.Answer) (past : List (Exchange Host.Answer)) :
    let run := (client.checkout directory branch track).run.transcript host past
    CheckoutCourse client directory branch track run.1 run.2 ∧
      ∀ (host' : Oracle Host.Answer) (past' : List (Exchange Host.Answer)) (outcome : Host.Outcome),
        let checked := (client.run directory (.checkout branch track)).run.transcript host' past'
        ran checked.1 = [triedCheckout directory branch track (.ok outcome)] → outcome.exitCode ≠ 0 →
          checked.2 = .error (.git (.commandFailed
            (client.runner.failureMessage (Command.checkout branch track).arguments)
            (some outcome.exitCode))) := by
  intro run
  refine ⟨checkoutCourse_of_leads (Dialogue.leads_transcript host past _), ?_⟩
  intro host' past' outcome checked hran hcode
  have hcourse := Runner.course_of_leads (Dialogue.leads_transcript host' past'
    (client.run directory (.checkout branch track)).run)
  change Runner.RunCourse _ _ _ _ checked.1 checked.2 at hcourse
  generalize checked.2 = ended at hcourse ⊢
  cases hcourse with
  | locked hnone _ _ => exact absurd (hnone.symm.trans hran) nofun
  | unstarted hone _ => exact absurd (Ran.mk.inj (List.cons.inj (hone.symm.trans hran)).1).2.2 nofun
  | passed hone hpasses =>
      obtain ⟨-, -, hsame⟩ := Ran.mk.inj (List.cons.inj (hone.symm.trans hran)).1
      obtain rfl := Except.ok.inj hsame
      exact absurd hpasses (by simp [Runner.Passes, hcode])
  | refused hone _ =>
      obtain ⟨-, -, hsame⟩ := Ran.mk.inj (List.cons.inj (hone.symm.trans hran)).1
      obtain rfl := Except.ok.inj hsame
      rfl

/-- A world in which every process with three arguments is killed. -/
def killingWorld : Host.World
  | .run process => .ok { ending := if process.arguments.length = 3 then .killed 9 else .exited 0 }
  | .fileKind _ => some .directory
  | question => nothingThere question

/-- The case of a checkout that is killed although the branch is there. -/
theorem killed_checkout_takes_its_course :
    let client : Client := {}
    let host : Oracle Host.Answer := fun _ => killingWorld
    let run := (client.checkout "work" "main" false).run.transcript host []
    let checked := (client.run "work" (.checkout "main" false)).run.transcript host []
    let failure := GitFailure.commandFailed
      (client.runner.failureMessage (Command.checkout "main" false).arguments) (some (-1))
    CheckoutCourse client "work" "main" false run.1 run.2 ∧
      ran run.1 = [triedCheckout "work" "main" false (.ok { ending := .killed 9 }),
        lookedForRef "work" "main" false (.ok {})] ∧
      run.2 = .error (.git failure) ∧ checked.2 = .error (.git failure) := by
  intro client host run checked failure
  obtain ⟨hcourse, hchecked⟩ := checkout_takes_its_course client "work" "main" false host []
  have hran : ran checked.1 = [triedCheckout "work" "main" false (.ok { ending := .killed 9 })] := rfl
  exact ⟨hcourse, rfl, rfl, hchecked host [] _ hran (by decide)⟩

end PullRequestBot.Git.Client
