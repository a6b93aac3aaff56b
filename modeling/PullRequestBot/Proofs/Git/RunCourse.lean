import PullRequestBot.Proofs.Git.MaskedDecisions

set_option autoImplicit false

/-! # The course of a run of git

A run of git starts one process, or none if the lock is refused, and ends by what became of it
(`course_of_leads`). What goes on after a run knows that its process passed (`passed_of_leads`). -/

namespace PullRequestBot.Host

open Dialogue (Exchange)

/-! ## What was run -/

/-- A process that was to be started: its arguments, the directory to run in, and what came of it. -/
structure Ran where
  arguments : List String
  directory : Option String
  result : Except SystemFailure Outcome

/-- The processes that were to be started, in order. -/
def ran (said : List (Exchange Answer)) : List Ran :=
  said.filterMap fun
    | ⟨.run process, result⟩ => some ⟨process.arguments, process.directory, result⟩
    | _ => none

@[simp] theorem ran_nil : ran [] = [] := rfl

@[simp] theorem ran_run_cons (process : Process) (result : Except SystemFailure Outcome)
    (said : List (Exchange Answer)) :
    ran (⟨.run process, result⟩ :: said) = ⟨process.arguments, process.directory, result⟩ :: ran said :=
  rfl

@[simp] theorem ran_append (said later : List (Exchange Answer)) :
    ran (said ++ later) = ran said ++ ran later :=
  List.filterMap_append

/-- Where nothing is started, nothing was run. -/
theorem ran_eq_nil {α : Type} {job : Job α} {sure : α → Prop} (h : job.Always StartsNothing sure)
    {said : List (Exchange Answer)} {value : α} (hleads : job.Leads said value) : ran said = [] := by
  refine List.filterMap_eq_nil_iff.2 fun exchange hexchange => ?_
  have hquestion := (h.leads hleads).1 exchange hexchange
  obtain ⟨question, answer⟩ := exchange
  cases question with
  | run process => exact hquestion.elim
  | _ => rfl

/-- A lock, or the directory for it, was refused for a cause. -/
def RefusesLock (cause : SystemFailure) : Exchange Answer → Prop
  | ⟨.makeDirectories _, answer⟩ => answer = .error cause
  | ⟨.lockFile _, answer⟩ => answer = .error cause
  | _ => False

end PullRequestBot.Host

namespace PullRequestBot.Git

open Dialogue (Exchange Leads)
open Host (RefusesLock ask ran tell)

variable {α : Type} {said : List (Exchange Host.Answer)}

namespace Lock

/-- A need ends by the answer to what was asked. -/
theorem leads_need {path : String} {job : Job (Except SystemFailure Unit)} {result : Except Failure Unit}
    (h : (need path job).run.Leads said result) :
    ∃ answer, job.Leads said answer ∧ result = answer.mapError fun cause => .git (.lock path cause) := by
  obtain ⟨before, answer, after, rfl, hjob, hrest⟩ := Dialogue.leads_run_lift_bind_iff.1 h
  refine ⟨answer, ?_⟩
  cases answer with
  | ok _ | error cause =>
      obtain ⟨rfl, rfl⟩ := Dialogue.leads_done_iff.1 hrest
      rw [List.append_nil]
      exact ⟨hjob, rfl⟩

/-- The failure is that of a lock that was refused. -/
def Refused (path : String) (said : List (Exchange Host.Answer)) (failure : Failure) : Prop :=
  ∃ cause, failure = .git (.lock path cause) ∧ ∃ exchange ∈ said, RefusesLock cause exchange

/-- A need is refused where what is asked for it is. -/
theorem refused_of_need {path : String} {job : Job (Except SystemFailure Unit)} {failure : Failure}
    (hjob : ∀ said cause, job.Leads said (.error cause) → ∃ exchange ∈ said, RefusesLock cause exchange)
    (h : (need path job).run.Leads said (.error failure)) : Refused path said failure := by
  obtain ⟨answer, hleads, hfailure⟩ := leads_need h
  cases answer with
  | ok _ => exact absurd hfailure nofun
  | error cause => exact ⟨cause, Except.error.inj hfailure, hjob said cause hleads⟩

/-- A lock that is not given was refused. -/
theorem refused_of_leads {lock : Lock} {failure : Failure}
    (h : lock.acquire.run.Leads said (.error failure)) :
    ∃ path, lock = .file path ∧ Refused path said failure := by
  cases lock with
  | none => exact absurd (Dialogue.leads_done_iff.1 h).2 nofun
  | file path =>
      have hlock : ∀ said cause, (ask (.lockFile path)).Leads said (.error cause) →
          ∃ exchange ∈ said, RefusesLock cause exchange := by
        intro said cause hleads
        obtain rfl := Dialogue.leads_question_iff.1 hleads
        exact ⟨_, List.mem_singleton_self _, rfl⟩
      have habove : ∀ above said cause, (ask (.makeDirectories above)).Leads said (.error cause) →
          ∃ exchange ∈ said, RefusesLock cause exchange := by
        intro above said cause hleads
        obtain rfl := Dialogue.leads_question_iff.1 hleads
        exact ⟨_, List.mem_singleton_self _, rfl⟩
      refine ⟨path, rfl, ?_⟩
      unfold acquire at h
      dsimp only at h
      split at h
      · rcases Dialogue.leads_run_bind_iff.1 h with ⟨_, hsame, hmade⟩ | ⟨_, _, _, rfl, -, hrest⟩
        · obtain rfl := Except.error.inj hsame
          exact refused_of_need (habove _) hmade
        · obtain ⟨cause, hfailure, exchange, hmem, hrefuses⟩ := refused_of_need hlock hrest
          exact ⟨cause, hfailure, exchange, List.mem_append_right _ hmem, hrefuses⟩
      · exact refused_of_need hlock h

end Lock

namespace Runner

variable {runner : Runner} {arguments : List String} {directory : Option String} {options : RunOptions}

/-! ## Runs -/

/-- What is made of it that git cannot be started. That something is missing means the executable, unless the
    directory is seen to be missing. -/
inductive StartReason (runner : Runner) (arguments : List String) (directory : Option String)
    (cause : SystemFailure) (said : List (Exchange Host.Answer)) : GitFailure → Prop where
  | missing (hcause : cause.isNotFound = true)
      (hthere : ∀ path ∈ directory, ∃ kind, ⟨.fileKind path, some kind⟩ ∈ said) :
      StartReason runner arguments directory cause said (.executableNotFound runner.executable)
  | spawn (hcause : cause.isNotFound = true → ∃ path ∈ directory, ⟨.fileKind path, none⟩ ∈ said) :
      StartReason runner arguments directory cause said (.spawn (runner.commandLine arguments) cause)

/-- How a run goes: what it says, and how it ends. -/
inductive RunCourse (runner : Runner) (arguments : List String) (directory : Option String)
    (options : RunOptions) : List (Exchange Host.Answer) → Except Failure Output → Prop where
  /-- The lock is refused. -/
  | locked {said : List (Exchange Host.Answer)} {path : String} {cause : SystemFailure}
      (hran : ran said = []) (hlock : runner.lock = .file path)
      (hrefused : ∃ exchange ∈ said, RefusesLock cause exchange) :
      RunCourse runner arguments directory options said (.error (.git (.lock path cause)))
  /-- Git cannot be started. -/
  | unstarted {said : List (Exchange Host.Answer)} {cause : SystemFailure} {reason : GitFailure}
      (hran : ran said = [⟨arguments, directory, .error cause⟩])
      (hreason : StartReason runner arguments directory cause said reason) :
      RunCourse runner arguments directory options said (.error (.git reason))
  /-- Git has run, and its exit code is accepted. -/
  | passed {said : List (Exchange Host.Answer)} {outcome : Host.Outcome}
      (hran : ran said = [⟨arguments, directory, .ok outcome⟩]) (h : Passes options outcome) :
      RunCourse runner arguments directory options said (.ok (runner.outputOf options outcome))
  /-- Git has run, and its exit code is not accepted. -/
  | refused {said : List (Exchange Host.Answer)} {outcome : Host.Outcome}
      (hran : ran said = [⟨arguments, directory, .ok outcome⟩]) (h : ¬ Passes options outcome) :
      RunCourse runner arguments directory options said
        (.error (.git (.commandFailed (runner.failureMessage arguments) (some outcome.exitCode))))

theorem ran_of_isEvent {job : Job α} {value : α} (h : job.Always Host.IsEvent fun _ => True)
    (hleads : job.Leads said value) : ran said = [] := by
  refine Host.ran_eq_nil (h.imp (fun question hevent => ?_) fun _ _ => trivial) hleads
  cases question with
  | run _ => exact hevent.elim
  | _ => trivial

/-- A finished process is judged by its exit code, and no other one is started. -/
theorem leads_conclude {outcome : Host.Outcome} {result : Except Failure Output}
    (h : (runner.conclude arguments options outcome).run.Leads said result) :
    ran said = [] ∧ ((Passes options outcome ∧ result = .ok (runner.outputOf options outcome)) ∨
      (¬ Passes options outcome ∧ result = .error (.git
        (.commandFailed (runner.failureMessage arguments) (some outcome.exitCode))))) := by
  unfold conclude at h
  dsimp only at h
  split at h
  · next hpasses =>
      obtain ⟨_, _, _, rfl, herror, h⟩ := Dialogue.leads_run_lift_bind_iff.1 h
      obtain ⟨_, _, _, rfl, htell, h⟩ := Dialogue.leads_run_lift_bind_iff.1 h
      obtain ⟨rfl, rfl⟩ := Dialogue.leads_done_iff.1 h
      refine ⟨?_, Or.inl ⟨by simpa [Passes, outputOf, Output.isSuccess] using hpasses, rfl⟩⟩
      rw [Host.ran_append, Host.ran_append, ran_of_isEvent (always_tellError _ _ _) herror,
        ran_of_isEvent always_tell htell]
      rfl
  · next hpasses =>
      obtain ⟨_, _, _, rfl, htell, h⟩ := Dialogue.leads_run_lift_bind_iff.1 h
      obtain ⟨_, _, _, rfl, herror, h⟩ := Dialogue.leads_run_lift_bind_iff.1 h
      obtain ⟨rfl, rfl⟩ := Dialogue.leads_done_iff.1 h
      refine ⟨?_, Or.inr ⟨by simpa [Passes, outputOf, Output.isSuccess] using hpasses, rfl⟩⟩
      rw [Host.ran_append, Host.ran_append, ran_of_isEvent (always_tellError _ _ _) herror,
        ran_of_isEvent always_tell htell]
      rfl

theorem StartReason.mono {cause : SystemFailure} {reason : GitFailure} {later : List (Exchange Host.Answer)}
    (h : StartReason runner arguments directory cause said reason) (hsub : said ⊆ later) :
    StartReason runner arguments directory cause later reason := by
  cases h with
  | missing hcause hthere =>
      refine .missing hcause fun path hpath => ?_
      obtain ⟨kind, hkind⟩ := hthere path hpath
      exact ⟨kind, hsub hkind⟩
  | spawn hcause =>
      refine .spawn fun hmissing => ?_
      obtain ⟨path, hpath, hgone⟩ := hcause hmissing
      exact ⟨path, hpath, hsub hgone⟩

/-- That git cannot be started is looked into, and nothing else is started. -/
theorem leads_startFailure {cause : SystemFailure} {result : Except Failure α}
    (h : (runner.startFailure arguments directory cause : Attempt α).run.Leads said result) :
    ran said = [] ∧ ∃ reason, result = .error (.git reason) ∧
      StartReason runner arguments directory cause said reason := by
  have hend (there : Bool) {later : List (Exchange Host.Answer)}
      (h : (if cause.isNotFound && there then Attempt.failGit (.executableNotFound runner.executable)
        else Attempt.failGit (.spawn (runner.commandLine arguments) cause) : Attempt α).run.Leads later
          result)
      (hthere : there = true → ∀ path ∈ directory, ∃ kind, ⟨.fileKind path, some kind⟩ ∈ said)
      (hgone : there = false → ∃ path ∈ directory, ⟨.fileKind path, none⟩ ∈ said) :
      later = [] ∧ ∃ reason, result = .error (.git reason) ∧
        StartReason runner arguments directory cause said reason := by
    split at h
    · next hmissing =>
      obtain ⟨rfl, rfl⟩ := Dialogue.leads_done_iff.1 h
      obtain ⟨hcause, htrue⟩ := Bool.and_eq_true_iff.1 hmissing
      exact ⟨rfl, _, rfl, .missing hcause (hthere htrue)⟩
    · next hother =>
      obtain ⟨rfl, rfl⟩ := Dialogue.leads_done_iff.1 h
      refine ⟨rfl, _, rfl, .spawn fun hcause => hgone ?_⟩
      simpa [hcause] using hother
  cases directory with
  | none =>
      obtain ⟨rfl, hreason⟩ := hend true h (fun _ => nofun) nofun
      exact ⟨rfl, hreason⟩
  | some path =>
      obtain ⟨kind, later, rfl, hlater⟩ := Dialogue.leads_ask_iff.1 h
      cases kind with
      | none =>
        obtain ⟨rfl, hreason⟩ := hend false hlater nofun fun _ => ⟨path, rfl, List.mem_cons_self⟩
        exact ⟨rfl, hreason⟩
      | some kind =>
        obtain ⟨rfl, hreason⟩ := hend true hlater (by simp) nofun
        exact ⟨rfl, hreason⟩

/-- Every run takes one of these courses. -/
theorem course_of_leads {result : Except Failure Output}
    (h : (runner.run arguments directory options).run.Leads said result) :
    RunCourse runner arguments directory options said result := by
  unfold run at h
  obtain ⟨told, _, _, rfl, htold, htelling⟩ := Dialogue.leads_run_lift_bind_iff.1 h
  obtain ⟨shown, _, _, rfl, hshown, hlocking⟩ := Dialogue.leads_run_lift_bind_iff.1 htelling
  have htold := ran_of_isEvent (runner.always_tellDirectory directory) htold
  have hshown := ran_of_isEvent always_tell hshown
  rcases Dialogue.leads_run_bind_iff.1 hlocking with
    ⟨failure, rfl, hlock⟩ | ⟨waited, _, _, rfl, hlock, hrunning⟩
  · obtain ⟨path, hfile, cause, rfl, exchange, hmem, hrefuses⟩ := Lock.refused_of_leads hlock
    refine .locked ?_ hfile ⟨exchange, by simp [hmem], hrefuses⟩
    simp [htold, hshown, Host.ran_eq_nil runner.lock.startsNone_acquire hlock]
  · have hlock := Host.ran_eq_nil runner.lock.startsNone_acquire hlock
    obtain ⟨_, answer, _, rfl, hask, hreleasing⟩ := Dialogue.leads_run_lift_bind_iff.1 hrunning
    obtain rfl := Dialogue.leads_question_iff.1 hask
    obtain ⟨released, _, later, rfl, hrelease, hending⟩ := Dialogue.leads_run_lift_bind_iff.1 hreleasing
    have hrelease := Host.ran_eq_nil runner.lock.staysLocal_release.startsNothing hrelease
    have hran (hlater : ran later = []) :
        ran (told ++ (shown ++ (waited ++ ([⟨.run (runner.process arguments directory options), answer⟩] ++
          (released ++ later))))) = [⟨arguments, directory, answer⟩] := by
      simp [htold, hshown, hlock, hrelease, hlater, process]
    cases answer with
    | ok outcome =>
        obtain ⟨hlater, ⟨hpasses, rfl⟩ | ⟨hrefused, rfl⟩⟩ := leads_conclude hending
        · exact .passed (hran hlater) hpasses
        · exact .refused (hran hlater) hrefused
    | error cause =>
        obtain ⟨hlater, reason, rfl, hreason⟩ := leads_startFailure hending
        refine .unstarted (hran hlater) (hreason.mono fun exchange hmem => ?_)
        simp [hmem]

/-- A run with an output is one of git whose exit code is accepted. -/
theorem passed_of_leads {output : Output}
    (h : (runner.run arguments directory options).run.Leads said (.ok output)) :
    ∃ outcome, ran said = [⟨arguments, directory, .ok outcome⟩] ∧ Passes options outcome ∧
      output = runner.outputOf options outcome := by
  cases course_of_leads h with
  | passed hran hpasses => exact ⟨_, hran, hpasses, rfl⟩

end Runner

end PullRequestBot.Git
