import PullRequestBot.Host.Basic
import PullRequestBot.Proofs.Dialogue.Transcript

set_option autoImplicit false

/-! # Jobs that act alike

Two jobs act alike if, given the same answers, they start the same processes and ask the same questions in
the same order, whatever events they tell of and whether or not they capture the standard error of a process
(`Alike`). Against a host that hears of neither (`deaf`), such jobs say the same as far as it hears, and end
as related (`Alike.transcripts`). -/

namespace PullRequestBot.Host

open Dialogue (Always Exchange Oracle transcript)

variable {α α' β β' γ : Type}

/-! ## Deaf hosts -/

/-- The process, without what becomes of its standard error. -/
def Process.plain (process : Process) : Process :=
  { process with capturesError := false }

/-- What a host hears of an exchange that is told of no events and does not see whether the standard error
    of a process is captured. -/
def heard? : Exchange Answer → Option (Exchange Answer)
  | ⟨.tell _, _⟩ => none
  | ⟨.run process, result⟩ => some ⟨.run process.plain, result⟩
  | exchange => some exchange

/-- How a process ends on a host. -/
def endOf (host : Oracle Answer) (past : List (Exchange Answer)) (process : Process) :
    Except SystemFailure Outcome :=
  host past (.run process)

/-- The host that answers in view of what it hears alone. -/
def deaf (host : Oracle Answer) : Oracle Answer
  | _, .tell _ => ()
  | past, .run process => endOf host (past.filterMap heard?) process.plain
  | past, question => host (past.filterMap heard?) question

/-- What was started: the arguments of each process, and the directory it ran in. -/
def started (said : List (Exchange Answer)) : List (List String × Option String) :=
  said.filterMap fun
    | ⟨.run process, _⟩ => some (process.arguments, process.directory)
    | _ => none

/-- How the processes ended, or why they could not be started. -/
def results (said : List (Exchange Answer)) : List (Except SystemFailure Outcome) :=
  said.filterMap fun
    | ⟨.run _, result⟩ => some result
    | _ => none

theorem started_heard (said : List (Exchange Answer)) : started (said.filterMap heard?) = started said := by
  rw [started, List.filterMap_filterMap]
  refine congrArg (List.filterMap · said) (funext fun exchange => ?_)
  obtain ⟨question, answer⟩ := exchange
  cases question <;> rfl

theorem started_append (said later : List (Exchange Answer)) :
    started (said ++ later) = started said ++ started later :=
  List.filterMap_append

theorem results_append (said later : List (Exchange Answer)) :
    results (said ++ later) = results said ++ results later :=
  List.filterMap_append

theorem started_congr {said said' : List (Exchange Answer)}
    (h : said.filterMap heard? = said'.filterMap heard?) : started said = started said' := by
  rw [← started_heard, h, started_heard]

theorem deaf_congr (host : Oracle Answer) {past past' : List (Exchange Answer)}
    (h : past.filterMap heard? = past'.filterMap heard?) (question : Question) :
    deaf host past question = deaf host past' question := by
  cases question with
  | tell _ => rfl
  | _ => simp only [deaf, h]

theorem heard?_run {process process' : Process} (h : process.plain = process'.plain)
    (result : Except SystemFailure Outcome) :
    heard? ⟨.run process, result⟩ = heard? ⟨.run process', result⟩ := by
  have hcongr : ∀ plain plain' : Process, plain = plain' →
      some (⟨.run plain, result⟩ : Exchange Answer) = some ⟨.run plain', result⟩ := by
    rintro plain _ rfl
    rfl
  exact hcongr _ _ h

/-- What was heard of two pasts stays the same with exchanges that are heard alike. -/
theorem heard_concat {past past' : List (Exchange Answer)} {exchange exchange' : Exchange Answer}
    (hpast : past.filterMap heard? = past'.filterMap heard?) (h : heard? exchange = heard? exchange') :
    (past ++ [exchange]).filterMap heard? = (past' ++ [exchange']).filterMap heard? := by
  rw [List.filterMap_append, List.filterMap_append, hpast, List.filterMap_cons, List.filterMap_cons, h]

theorem heard_cons {later later' : List (Exchange Answer)} {exchange exchange' : Exchange Answer}
    (h : heard? exchange = heard? exchange') (hlater : later.filterMap heard? = later'.filterMap heard?) :
    (exchange :: later).filterMap heard? = (exchange' :: later').filterMap heard? := by
  rw [List.filterMap_cons, List.filterMap_cons, h, hlater]

/-! ## Acting alike -/

/-- Not a process. -/
def StartsNothing : Question → Prop
  | .run _ => False
  | _ => True

/-- Given the same answers, two jobs ask the same, but for events and for the capturing of standard errors,
    and their values are related, in view of how the processes on the way ended. -/
inductive Alike : (List (Except SystemFailure Outcome) → α → β → Prop) → Job α → Job β → Prop where
  | done {ended : List (Except SystemFailure Outcome) → α → β → Prop} {value : α} {value' : β}
      (h : ended [] value value') : Alike ended (.done value) (.done value')
  | tellFirst {ended : List (Except SystemFailure Outcome) → α → β → Prop} {event : Log.Event}
      {next : Answer (.tell event) → Job α} {job' : Job β} (h : Alike ended (next ()) job') :
      Alike ended (.ask (.tell event) next) job'
  | tellSecond {ended : List (Except SystemFailure Outcome) → α → β → Prop} {event : Log.Event}
      {job : Job α} {next : Answer (.tell event) → Job β} (h : Alike ended job (next ())) :
      Alike ended job (.ask (.tell event) next)
  | run {ended : List (Except SystemFailure Outcome) → α → β → Prop} {process process' : Process}
      {next : Answer (.run process) → Job α} {next' : Answer (.run process') → Job β}
      (hplain : process.plain = process'.plain)
      (h : ∀ result, Alike (fun later => ended (result :: later)) (next result) (next' result)) :
      Alike ended (.ask (.run process) next) (.ask (.run process') next')
  | ask {ended : List (Except SystemFailure Outcome) → α → β → Prop} {question : Question}
      {next : Answer question → Job α} {next' : Answer question → Job β}
      (hquestion : StartsNothing question)
      (h : ∀ answer, Alike ended (next answer) (next' answer)) :
      Alike ended (.ask question next) (.ask question next')

variable {ended : List (Except SystemFailure Outcome) → α → β → Prop}

/-- Against a deaf host, jobs that act alike say the same as far as it hears, and end as related. -/
theorem Alike.transcripts {job : Job α} {job' : Job β} (h : Alike ended job job') (host : Oracle Answer)
    {past past' : List (Exchange Answer)} (hpast : past.filterMap heard? = past'.filterMap heard?) :
    let said := job.transcript (deaf host) past
    let said' := job'.transcript (deaf host) past'
    said.1.filterMap heard? = said'.1.filterMap heard? ∧ ended (results said.1) said.2 said'.2 := by
  -- what is heard of the past stays the same on both sides, so the answers do
  induction h generalizing past past' with
  | done h => exact ⟨rfl, h⟩
  | tellFirst h ih =>
      refine ih ?_
      rw [List.filterMap_append, hpast]
      exact List.append_nil _
  | tellSecond h ih =>
      refine ih ?_
      rw [List.filterMap_append, ← hpast]
      exact (List.append_nil _).symm
  | @run ended process process' next next' hplain h ih =>
      have hresult : endOf host (past'.filterMap heard?) process'.plain =
          endOf host (past.filterMap heard?) process.plain := by rw [hpast, hplain]
      have hheard := heard?_run hplain (endOf host (past.filterMap heard?) process.plain)
      obtain ⟨hlater, hended⟩ := ih _ (heard_concat hpast hheard)
      rw [transcript, transcript]
      dsimp only [deaf]
      rw [hresult]
      exact ⟨heard_cons hheard hlater, hended⟩
  | @ask ended question next next' hquestion h ih =>
      obtain ⟨hlater, hended⟩ := ih (deaf host past question)
        (heard_concat hpast (Eq.refl (heard? ⟨question, deaf host past question⟩)))
      rw [transcript, transcript]
      dsimp only
      rw [← deaf_congr host hpast question]
      refine ⟨heard_cons rfl hlater, ?_⟩
      cases question with
      | run process => exact hquestion.elim
      | _ => exact hended

/-- Wherever one of two jobs that act alike leads, the other one can end as related. -/
theorem Alike.leads {job : Job α} {job' : Job β} (h : Alike ended job job') {said : List (Exchange Answer)}
    {value : α} (hleads : job.Leads said value) : ∃ value', ended (results said) value value' := by
  induction h generalizing said with
  | done h =>
      obtain ⟨rfl, rfl⟩ := Dialogue.leads_done_iff.1 hleads
      exact ⟨_, h⟩
  | tellFirst _ ih =>
      obtain ⟨_, later, rfl, hlater⟩ := Dialogue.leads_ask_iff.1 hleads
      have hended := ih hlater
      exact hended
  | tellSecond _ ih => exact ih hleads
  | run _ _ ih =>
      obtain ⟨result, later, rfl, hlater⟩ := Dialogue.leads_ask_iff.1 hleads
      have hended := ih result hlater
      exact hended
  | @ask _ question _ _ hquestion _ ih =>
      obtain ⟨answer, later, rfl, hlater⟩ := Dialogue.leads_ask_iff.1 hleads
      have hended := ih answer hlater
      cases question with
      | run process => exact hquestion.elim
      | _ => exact hended

/-! ## Composition -/

theorem Alike.imp {ended' : List (Except SystemFailure Outcome) → α → β → Prop} {job : Job α} {job' : Job β}
    (h : Alike ended job job')
    (hended : ∀ results value value', ended results value value' → ended' results value value') :
    Alike ended' job job' := by
  induction h generalizing ended' with
  | done h => exact .done (hended _ _ _ h)
  | tellFirst _ ih => exact .tellFirst (ih hended)
  | tellSecond _ ih => exact .tellSecond (ih hended)
  | run hplain _ ih => exact .run hplain fun result => ih result fun later => hended (result :: later)
  | ask hquestion _ ih => exact .ask hquestion fun answer => ih answer hended

theorem Alike.swap {job : Job α} {job' : Job β} (h : Alike ended job job') :
    Alike (fun results value' value => ended results value value') job' job := by
  induction h with
  | done h => exact .done h
  | tellFirst _ ih => exact .tellSecond ih
  | tellSecond _ ih => exact .tellFirst ih
  | run hplain _ ih => exact .run hplain.symm ih
  | ask hquestion _ ih => exact .ask hquestion ih

/-- A job that starts nothing acts like itself. -/
theorem alike_self {sure : α → Prop} {job : Job α} (h : job.Always StartsNothing sure) :
    Alike (fun results value value' => results = [] ∧ value' = value ∧ sure value) job job := by
  induction job with
  | done value => exact .done ⟨rfl, rfl, h⟩
  | ask question next ih =>
      obtain ⟨hquestion, hnext⟩ := h
      cases question with
      | tell event => exact .tellFirst (.tellSecond (ih () (hnext ())))
      | run process => exact hquestion.elim
      | _ => exact .ask trivial fun answer => ih answer (hnext answer)

/-- The rule for sequences. -/
theorem Alike.bind {middle : List (Except SystemFailure Outcome) → α → β → Prop}
    {ended : List (Except SystemFailure Outcome) → α' → β' → Prop} {first : Job α} {first' : Job β}
    {next : α → Job α'} {next' : β → Job β'} (h : Alike middle first first')
    (hnext : ∀ results value value', middle results value value' →
      Alike (fun later => ended (results ++ later)) (next value) (next' value')) :
    Alike ended (first >>= next) (first' >>= next') := by
  induction h generalizing ended with
  | done h => exact hnext [] _ _ h
  | tellFirst _ ih => exact .tellFirst (ih hnext)
  | tellSecond _ ih => exact .tellSecond (ih hnext)
  | run hplain _ ih => exact .run hplain fun result => ih result fun later => hnext (result :: later)
  | ask hquestion _ ih => exact .ask hquestion fun answer => ih answer hnext

/-- An event, and nothing that a deaf host hears. -/
def IsEvent : Question → Prop
  | .tell _ => True
  | _ => False

/-- Telling of events does not matter. -/
theorem Alike.tells_first {told : Job γ} (htold : told.Always IsEvent fun _ => True) {next : γ → Job α}
    {job' : Job β} (h : ∀ value, Alike ended (next value) job') : Alike ended (told >>= next) job' := by
  induction told with
  | done value => exact h value
  | ask question rest ih =>
      obtain ⟨hquestion, hrest⟩ := htold
      cases question with
      | tell event => exact .tellFirst (ih () (hrest ()))
      | _ => exact hquestion.elim

theorem Alike.tells_second {told : Job γ} (htold : told.Always IsEvent fun _ => True) {job : Job α}
    {next' : γ → Job β} (h : ∀ value, Alike ended job (next' value)) :
    Alike ended job (told >>= next') :=
  (Alike.tells_first htold fun value => (h value).swap).swap

/-! ## Attempts -/

variable
  {related : List (Except SystemFailure Outcome) → Except Failure α → Except Failure β → Prop}

/-- Both sides may tell of events first. -/
theorem Alike.tells_bind {told told' : Job γ} (htold : told.Always IsEvent fun _ => True)
    (htold' : told'.Always IsEvent fun _ => True) {next : γ → Attempt α} {next' : γ → Attempt β}
    (h : ∀ value value', Alike related (next value).run (next' value').run) :
    Alike related (liftM told >>= next).run (liftM told' >>= next').run := by
  rw [Dialogue.run_lift_bind told, Dialogue.run_lift_bind told']
  exact .tells_first htold fun value => .tells_second htold' fun value' => h value value'

/-- The rule for sequences whose first part cannot fail. -/
theorem Alike.lift_bind {middle : List (Except SystemFailure Outcome) → α' → β' → Prop} {first : Job α'}
    {first' : Job β'} (h : Alike middle first first') {next : α' → Attempt α} {next' : β' → Attempt β}
    (hnext : ∀ results value value', middle results value value' →
      Alike (fun later => related (results ++ later)) (next value).run (next' value').run) :
    Alike related (liftM first >>= next).run (liftM first' >>= next').run := by
  rw [Dialogue.run_lift_bind first, Dialogue.run_lift_bind first']
  exact h.bind hnext

end PullRequestBot.Host
