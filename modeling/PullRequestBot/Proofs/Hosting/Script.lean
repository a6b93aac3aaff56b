import PullRequestBot.Proofs.Dialogue.Stateful
import PullRequestBot.Proofs.Hosting.Call

set_option autoImplicit false

/-! # Scripts of calls

An operation of the live backend that makes several calls follows a script: each stage makes one call, and
the response decides which stage comes next. A walk through a script lists the stages that were taken with
what was said and replied at each (`Walk`). `Follows` says that an attempt walks through a script whatever
the answers are; its rules follow the structure of the attempt.

A walk ends with a failure exactly when its last reply does not pass the check of its stage
(`Walk.error_iff`), and it reaches its end exactly when all replies pass (`Walk.ok_iff`). -/

namespace PullRequestBot.Live

open Host (ask tell)

variable {α β Stage : Type} {live : Live}

/-! ## Scripts and walks -/

/-- What to call at each stage, and what a response leads to: a stage, the end, or a failure. -/
structure Script (Stage : Type) where
  call : Stage → Call
  next : Stage → Received → Except Failure (Option Stage)

/-- A stage that was taken: the requests that its call sent, and the reply. -/
structure Turn (Stage : Type) where
  stage : Stage
  said : List Said
  reply : Reply

/-- What the reply of a turn leads to. -/
def Turn.outcome (script : Script Stage) (turn : Turn Stage) : Except Failure (Option Stage) :=
  judge (script.next turn.stage) turn.reply

theorem Turn.reply_of_outcome {script : Script Stage} {turn : Turn Stage} {place : Option Stage}
    (h : turn.outcome script = .ok place) :
    ∃ received, turn.reply = .ok received ∧ script.next turn.stage received = .ok place := by
  obtain ⟨stage, said, reply⟩ := turn
  cases reply with
  | ok received => exact ⟨received, rfl, h⟩
  | error failure => exact absurd h nofun

/-- The reply of a turn passes the check of its stage. -/
def Turn.Passes (script : Script Stage) (turn : Turn Stage) : Prop :=
  ∃ next, turn.outcome script = .ok next

/-- The requests of the turns, in order. -/
def saidIn (turns : List (Turn Stage)) : List Said :=
  turns.flatMap Turn.said

theorem saidIn_append (turns later : List (Turn Stage)) :
    saidIn (turns ++ later) = saidIn turns ++ saidIn later :=
  List.flatMap_append

/-- A walk through a script from one place to another: in front of a stage, or at the end. It may break off
    with a failure. -/
inductive Walk (live : Live) (script : Script Stage) :
    Option Stage → List (Turn Stage) → Except Failure (Option Stage) → Prop where
  | here (place : Option Stage) : Walk live script place [] (.ok place)
  | failed {stage : Stage} {said : List Said} {reply : Reply} {failure : Failure}
      (hsent : live.Sent (script.call stage) said reply)
      (houtcome : Turn.outcome script ⟨stage, said, reply⟩ = .error failure) :
      Walk live script (some stage) [⟨stage, said, reply⟩] (.error failure)
  | went {stage : Stage} {place : Option Stage} {said : List Said} {reply : Reply}
      {later : List (Turn Stage)} {ending : Except Failure (Option Stage)}
      (hsent : live.Sent (script.call stage) said reply)
      (houtcome : Turn.outcome script ⟨stage, said, reply⟩ = .ok place)
      (rest : Walk live script place later ending) :
      Walk live script (some stage) (⟨stage, said, reply⟩ :: later) ending

variable {script : Script Stage} {stage : Stage} {place : Option Stage} {turns : List (Turn Stage)}
  {ending : Except Failure (Option Stage)}

/-- A walk of one turn. -/
theorem Walk.single {said : List Said} {reply : Reply}
    (hsent : live.Sent (script.call stage) said reply) :
    live.Walk script (some stage) [⟨stage, said, reply⟩]
      (Turn.outcome script ⟨stage, said, reply⟩) := by
  cases houtcome : Turn.outcome script ⟨stage, said, reply⟩ with
  | error failure => exact .failed hsent houtcome
  | ok place => exact .went hsent houtcome (.here place)

/-- A walk that does not break off can be taken on from where it leads. -/
theorem Walk.trans {middle : Option Stage} {later : List (Turn Stage)}
    (h : live.Walk script place turns (.ok middle)) (hlater : live.Walk script middle later ending) :
    live.Walk script place (turns ++ later) ending := by
  generalize hmiddle : (.ok middle : Except Failure (Option Stage)) = stop at h
  induction h with
  | here _ =>
      obtain rfl := Except.ok.inj hmiddle
      exact hlater
  | failed _ _ => exact absurd hmiddle nofun
  | went hsent houtcome _ ih => exact .went hsent houtcome (ih hmiddle)

/-! ## What a walk ends with -/

/-- Every turn of a walk made the call of its stage. -/
theorem Walk.sent (h : live.Walk script place turns ending) :
    ∀ turn ∈ turns, live.Sent (script.call turn.stage) turn.said turn.reply := by
  induction h with
  | here _ => exact nofun
  | failed hsent _ => exact List.forall_mem_singleton.2 hsent
  | went hsent _ _ ih => exact List.forall_mem_cons.2 ⟨hsent, ih⟩

/-- All turns of a walk that does not fail pass. -/
theorem Walk.passes {stop : Option Stage} (h : live.Walk script place turns (.ok stop)) :
    ∀ turn ∈ turns, turn.Passes script := by
  generalize hstop : (.ok stop : Except Failure (Option Stage)) = ending at h
  induction h with
  | here _ => exact nofun
  | failed _ _ => exact absurd hstop nofun
  | went _ houtcome _ ih => exact List.forall_mem_cons.2 ⟨⟨_, houtcome⟩, ih hstop⟩

/-- The last turn of a walk that fails is the first one that does not pass. -/
theorem Walk.failure_last {failure : Failure} (h : live.Walk script place turns (.error failure)) :
    ∃ earlier last, turns = earlier ++ [last] ∧ (∀ turn ∈ earlier, turn.Passes script) ∧
      last.outcome script = .error failure := by
  generalize hfailed : (.error failure : Except Failure (Option Stage)) = ending at h
  induction h with
  | here _ => exact absurd hfailed nofun
  | failed _ houtcome =>
      obtain rfl := Except.error.inj hfailed
      exact ⟨[], _, rfl, nofun, houtcome⟩
  | went _ houtcome _ ih =>
      obtain ⟨earlier, last, rfl, hearlier, hlast⟩ := ih hfailed
      exact ⟨_ :: earlier, last, rfl, List.forall_mem_cons.2 ⟨⟨_, houtcome⟩, hearlier⟩, hlast⟩

theorem Turn.not_passes_of_error {turn : Turn Stage} {failure : Failure}
    (h : turn.outcome script = .error failure) : ¬ turn.Passes script := by
  rintro ⟨next, hnext⟩
  rw [h] at hnext
  exact absurd hnext nofun

/-- A walk ends without a failure if and only if every reply passes the check of its stage. -/
theorem Walk.ok_iff (h : live.Walk script place turns ending) :
    (∃ stop, ending = .ok stop) ↔ ∀ turn ∈ turns, turn.Passes script := by
  cases ending with
  | ok stop => exact iff_of_true ⟨stop, rfl⟩ h.passes
  | error failure =>
      obtain ⟨earlier, last, rfl, -, hlast⟩ := h.failure_last
      refine iff_of_false nofun fun hpasses => ?_
      exact Turn.not_passes_of_error hlast (hpasses last (List.mem_append_right _ List.mem_cons_self))

/-- Nothing is called after a reply that does not pass, and the walk ends with what it led to. -/
theorem Walk.ending_of_failed {turn : Turn Stage} {failure : Failure}
    (h : live.Walk script place turns ending) (hturn : turn ∈ turns)
    (hfailed : turn.outcome script = .error failure) : ending = .error failure := by
  cases ending with
  | ok stop => exact absurd (h.passes turn hturn) (Turn.not_passes_of_error hfailed)
  | error met =>
      obtain ⟨earlier, last, rfl, hearlier, hlast⟩ := h.failure_last
      rcases List.mem_append.1 hturn with hturn | hturn
      · exact absurd (hearlier turn hturn) (Turn.not_passes_of_error hfailed)
      · obtain rfl := List.mem_singleton.1 hturn
        exact congrArg Except.error (Except.error.inj (hlast.symm.trans hfailed))

/-- A walk ends with a failure if and only if its last reply fails the check of its stage with it. -/
theorem Walk.error_iff (h : live.Walk script place turns ending) (failure : Failure) :
    ending = .error failure ↔
      ∃ earlier last, turns = earlier ++ [last] ∧ (∀ turn ∈ earlier, turn.Passes script) ∧
        last.outcome script = .error failure := by
  constructor
  · rintro rfl
    exact h.failure_last
  · rintro ⟨earlier, last, rfl, -, hlast⟩
    exact h.ending_of_failed (List.mem_append_right _ List.mem_cons_self) hlast

/-- What comes of a whole operation is no stage of its script. -/
theorem map_none_ne (result : Except Failure α) (stage : Stage) :
    result.map (fun _ => (none : Option Stage)) ≠ .ok (some stage) := by
  cases result with
  | ok _ | error _ => nofun

/-! ## The calls of a walk -/

/-- The calls of the turns, in order. -/
def callsIn (script : Script Stage) (turns : List (Turn Stage)) : List Call :=
  turns.map fun turn => script.call turn.stage

/-- The calls of a walk to the end are a full list of calls from its first place on, and those of a walk
    that breaks off begin such a list. What a full list is has to fit the script. -/
theorem Walk.calls_prefix {full : Option Stage → List Call → Prop} (hend : full none [])
    (hstep : ∀ stage received place calls, script.next stage received = .ok place →
      full place calls → full (some stage) (script.call stage :: calls))
    (hsome : ∀ stage, ∃ calls, full (some stage) (script.call stage :: calls))
    (h : live.Walk script place turns ending) (hstops : ∀ stage, ending ≠ .ok (some stage)) :
    ∃ calls, full place calls ∧ callsIn script turns <+: calls ∧
      (ending = .ok none → callsIn script turns = calls) := by
  induction h with
  | here place =>
      cases place with
      | none => exact ⟨[], hend, List.prefix_rfl, fun _ => rfl⟩
      | some stage => exact absurd rfl (hstops stage)
  | @failed stage _ _ _ _ _ =>
      obtain ⟨calls, hfull⟩ := hsome stage
      exact ⟨_, hfull, ⟨calls, rfl⟩, nofun⟩
  | @went stage place said reply later ending hsent houtcome _ ih =>
      obtain ⟨received, -, hnext⟩ := Turn.reply_of_outcome houtcome
      obtain ⟨calls, hfull, hprefix, hall⟩ := ih hstops
      refine ⟨script.call stage :: calls, hstep stage received place calls hnext hfull,
        List.cons_prefix_cons.2 ⟨rfl, hprefix⟩, fun hended => ?_⟩
      exact congrArg (List.cons (script.call stage)) (hall hended)

/-! ## The history of a walk -/

/-- What each reply that passes takes from one place to the next, with the turns so far, holds in front of
    every turn of a walk, and where the walk stops. -/
theorem Walk.stands {stands : Option Stage → List (Turn Stage) → Prop}
    (hstep : ∀ stage said received place earlier, stands (some stage) earlier →
      script.next stage received = .ok place →
      stands place (earlier ++ [⟨stage, said, .ok received⟩]))
    (h : live.Walk script place turns ending) {earlier : List (Turn Stage)}
    (hplace : stands place earlier) :
    (∀ before turn after, turns = before ++ turn :: after →
        stands (some turn.stage) (earlier ++ before)) ∧
      ∀ stop, ending = .ok stop → stands stop (earlier ++ turns) := by
  induction h generalizing earlier with
  | here place =>
      refine ⟨fun before turn after hturns => ?_, fun stop hstop => ?_⟩
      · simp at hturns
      · obtain rfl := Except.ok.inj hstop
        rwa [List.append_nil]
  | failed _ _ =>
      refine ⟨fun before turn after hturns => ?_, nofun⟩
      rcases List.cons_eq_append_iff.1 hturns with ⟨rfl, hturn⟩ | ⟨_, -, hturn⟩
      · obtain ⟨rfl, -⟩ := List.cons.inj hturn
        rwa [List.append_nil]
      · simp at hturn
  | @went stage place said reply later ending _ houtcome _ ih =>
      obtain ⟨received, rfl, hnext⟩ := Turn.reply_of_outcome houtcome
      obtain ⟨hlater, hended⟩ := ih (hstep stage said received place earlier hplace hnext)
      refine ⟨fun before turn after hturns => ?_, fun stop hstop => ?_⟩
      · rcases List.cons_eq_append_iff.1 hturns with ⟨rfl, hturn⟩ | ⟨before', rfl, hturn⟩
        · obtain ⟨rfl, -⟩ := List.cons.inj hturn
          rwa [List.append_nil]
        · have hstands := hlater before' turn after hturn
          rwa [List.append_assoc] at hstands
      · have hstands := hended stop hstop
        rwa [List.append_assoc] at hstands

/-- A turn that leads to no further stage is the last one. -/
theorem Walk.after_nil {before after : List (Turn Stage)} {turn : Turn Stage}
    (h : live.Walk script place turns ending)
    (hstops : ∀ stage, turn.outcome script ≠ .ok (some stage)) (hturns : turns = before ++ turn :: after) :
    after = [] := by
  induction h generalizing before with
  | here _ => simp at hturns
  | failed _ _ =>
      rcases List.cons_eq_append_iff.1 hturns with ⟨-, hturn⟩ | ⟨_, -, hturn⟩
      · exact (List.cons.inj hturn).2
      · simp at hturn
  | @went stage place said reply later ending _ houtcome rest ih =>
      rcases List.cons_eq_append_iff.1 hturns with ⟨-, hturn⟩ | ⟨before', -, hturn⟩
      · obtain ⟨rfl, rfl⟩ := List.cons.inj hturn
        cases place with
        | some stage' => exact absurd houtcome (hstops stage')
        | none =>
            cases rest with
            | here _ => rfl
      · exact ih hturn

/-- Each request of a walk is that of one of its turns. -/
theorem saidIn_eq_append {turns : List (Turn Stage)} {before after : List Said} {exchange : Said}
    (hsingle : ∀ turn ∈ turns, turn.said = [] ∨ ∃ exchange, turn.said = [exchange])
    (h : saidIn turns = before ++ exchange :: after) :
    ∃ earlier turn later, turns = earlier ++ turn :: later ∧ turn.said = [exchange] ∧
      saidIn earlier = before ∧ saidIn later = after := by
  induction turns generalizing before with
  | nil => simp [saidIn] at h
  | cons turn turns ih =>
      obtain ⟨hturn, hturns⟩ := List.forall_mem_cons.1 hsingle
      have hsaid : turn.said ++ saidIn turns = before ++ exchange :: after := h
      rcases hturn with hnone | ⟨first, hone⟩
      · rw [hnone, List.nil_append] at hsaid
        obtain ⟨earlier, found, later, rfl, hfound, rfl, rfl⟩ := ih hturns hsaid
        refine ⟨turn :: earlier, found, later, rfl, hfound, ?_, rfl⟩
        simp [saidIn, hnone]
      · rw [hone, List.singleton_append] at hsaid
        rcases List.cons_eq_append_iff.1 hsaid with ⟨rfl, hfirst⟩ | ⟨before', rfl, hrest⟩
        · obtain ⟨rfl, rfl⟩ := List.cons.inj hfirst
          exact ⟨[], turn, turns, rfl, hone, rfl, rfl⟩
        · obtain ⟨earlier, found, later, rfl, hfound, rfl, rfl⟩ := ih hturns hrest
          refine ⟨turn :: earlier, found, later, rfl, hfound, ?_, rfl⟩
          simp [saidIn, hone]

/-! ## Walks on a state -/

/-- What every turn keeps of a state, a whole walk keeps. -/
theorem Walk.keeps {σ : Type} {allows : σ → Said → σ → Prop}
    {kept : Except Failure (Option Stage) → σ → Prop}
    (hstep : ∀ stage said reply before after, kept (.ok (some stage)) before →
      live.Sent (script.call stage) said reply → Dialogue.Evolves allows before said after →
      kept (Turn.outcome script ⟨stage, said, reply⟩) after)
    (h : live.Walk script place turns ending) {before after : σ} (hbefore : kept (.ok place) before)
    (hevolves : Dialogue.Evolves allows before (saidIn turns) after) :
    kept ending after ∧ ∀ turn ∈ turns, ∃ state, kept (.ok (some turn.stage)) state := by
  induction h generalizing before with
  | here place =>
      cases hevolves
      exact ⟨hbefore, nofun⟩
  | @failed stage said reply failure hsent houtcome =>
      have hsaid : saidIn [⟨stage, said, reply⟩] = said := List.append_nil said
      rw [hsaid] at hevolves
      rw [← houtcome]
      exact ⟨hstep _ _ _ _ _ hbefore hsent hevolves, List.forall_mem_singleton.2 ⟨before, hbefore⟩⟩
  | @went stage place said reply later ending hsent houtcome _ ih =>
      obtain ⟨middle, hnow, hlater⟩ := Dialogue.Evolves.of_append hevolves
      have hmiddle := hstep _ _ _ _ _ hbefore hsent hnow
      rw [houtcome] at hmiddle
      obtain ⟨hended, hturns⟩ := ih hmiddle hlater
      exact ⟨hended, List.forall_mem_cons.2 ⟨⟨before, hbefore⟩, hturns⟩⟩

/-! ## Attempts that follow a script -/

/-- Whatever the answers are, the attempt walks through the script from the place on, sends nothing else,
    and leaves the script where its value says. -/
def Follows (live : Live) (script : Script Stage) (place : Option Stage) (leaves : α → Option Stage)
    (attempt : Attempt α) : Prop :=
  ∀ said result, attempt.run.Leads said result →
    ∃ turns, live.Walk script place turns (result.map leaves) ∧ sent said = saidIn turns

variable {leaves : α → Option Stage}

theorem follows_pure {value : α} (h : leaves value = place) :
    live.Follows script place leaves (pure value) := by
  intro said result hleads
  obtain ⟨rfl, rfl⟩ := Dialogue.leads_done_iff.1 hleads
  subst h
  exact ⟨[], .here _, rfl⟩

/-- An attempt that makes the call of a stage. -/
theorem Judges.follows {verdict : Received → Except Failure α} {attempt : Attempt α}
    (h : live.Judges (script.call stage) verdict attempt)
    (hnext : ∀ received, script.next stage received = (verdict received).map leaves) :
    live.Follows script (some stage) leaves attempt := by
  intro said result hleads
  obtain ⟨reply, hsent, rfl⟩ := h said result hleads
  have houtcome : Turn.outcome script ⟨stage, sent said, reply⟩ =
      (judge verdict reply).map leaves := by
    cases reply with
    | ok received => exact hnext received
    | error _ => rfl
  refine ⟨[⟨stage, sent said, reply⟩], ?_, (List.append_nil _).symm⟩
  rw [← houtcome]
  exact .single hsent

/-- An attempt that makes the call of a stage and goes on from where the response leads. -/
theorem follows_send_bind {method : Http.Method} {path : String} {body : Option Json}
    {rest : Received → Attempt α} (hcall : script.call stage = ⟨method, path, body⟩)
    (hfails : ∀ received failure, script.next stage received = .error failure →
      Settles (rest received) (.error failure))
    (hgoes : ∀ received place, script.next stage received = .ok place →
      live.Follows script place leaves (rest received)) :
    live.Follows script (some stage) leaves (live.send method path body >>= rest) := by
  intro said result hleads
  rcases @leads_send_bind _ live ⟨method, path, body⟩ rest said result hleads with
    ⟨failure, hsent, rfl⟩ | ⟨now, received, later, rfl, hsent, hrest⟩ <;> rw [← hcall] at hsent
  · refine ⟨[⟨stage, said, .error failure⟩], .failed hsent rfl, ?_⟩
    rw [hsent.sent_eq]
    exact (List.append_nil said).symm
  · cases hnext : script.next stage received with
    | error failure =>
        obtain ⟨hlater, rfl⟩ := hfails received failure hnext later result hrest
        refine ⟨[⟨stage, now, .ok received⟩], .failed hsent hnext, ?_⟩
        rw [sent_append, hsent.sent_eq, hlater]
        rfl
    | ok place =>
        obtain ⟨turns, hwalk, hlater⟩ := hgoes received place hnext later result hrest
        refine ⟨⟨stage, now, .ok received⟩ :: turns, .went hsent hnext hwalk, ?_⟩
        rw [sent_append, hsent.sent_eq, hlater]
        rfl

theorem Follows.bind {middle : α → Option Stage} {leaves : β → Option Stage} {first : Attempt α}
    {rest : α → Attempt β} (h : live.Follows script place middle first)
    (hrest : ∀ value, live.Follows script (middle value) leaves (rest value)) :
    live.Follows script place leaves (first >>= rest) := by
  intro said result hleads
  rcases Dialogue.leads_run_bind_iff.1 hleads with
    ⟨failure, rfl, hfirst⟩ | ⟨before, value, after, rfl, hfirst, hlater⟩
  · exact h said _ hfirst
  · obtain ⟨turns, hwalk, hbefore⟩ := h before _ hfirst
    obtain ⟨later, hwalk', hafter⟩ := hrest value after result hlater
    refine ⟨turns ++ later, hwalk.trans hwalk', ?_⟩
    rw [sent_append, hbefore, hafter, saidIn_append]

/-- A question that is no request may be asked first. -/
theorem Follows.ask_bind {q : Host.Question} {rest : Host.Answer q → Attempt α} (hq : isSend q = false)
    (h : ∀ answer, live.Follows script place leaves (rest answer)) :
    live.Follows script place leaves (liftM (ask q) >>= rest) := by
  intro said result hleads
  obtain ⟨before, answer, after, rfl, hask, hrest⟩ := Dialogue.leads_run_lift_bind_iff.1 hleads
  obtain ⟨turns, hwalk, hafter⟩ := h answer after result hrest
  refine ⟨turns, hwalk, ?_⟩
  rw [sent_append, sent_question hask hq, hafter]
  rfl

theorem follows_tell {leaves : Unit → Option Stage} {severity : Log.Severity} {source : Log.Source}
    {message : String} {fields : List (String × Log.Value)} (h : leaves () = place) :
    live.Follows script place leaves (liftM (tell severity source message fields)) := by
  rw [← bind_pure (liftM (tell severity source message fields))]
  exact .ask_bind rfl fun _ => follows_pure h

theorem follows_pause {leaves : Unit → Option Stage} {seconds : Nat} (h : leaves () = place) :
    live.Follows script place leaves (liftM (ask (.pause seconds))) := by
  rw [← bind_pure (liftM (ask (.pause seconds)))]
  exact .ask_bind rfl fun _ => follows_pure h

end PullRequestBot.Live
