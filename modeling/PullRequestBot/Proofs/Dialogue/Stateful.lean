import PullRequestBot.Proofs.Dialogue.Transcript

set_option autoImplicit false

/-! # Dialogues that act on a state

Whoever answers the questions of a dialogue may keep a state that changes with every answer. What an
answer may do to it is a relation `allows`. `Keeps` says that, within this relation, every state on the
way satisfies an assertion and that the end satisfies another one; its rules follow the structure of a
dialogue, and `Keeps.transcript` carries it over to an oracle together with its state. -/

namespace PullRequestBot.Dialogue

variable {Question : Type} {Answer : Question → Type} {α β ε σ : Type}
variable {allows : σ → Exchange Answer → σ → Prop} {kept : σ → Prop}

/-- Started in a state, and however the questions are answered within what is allowed, all states on the
    way are `kept`, and the value and the state at the end are `ended`. -/
def Keeps (allows : σ → Exchange Answer → σ → Prop) (kept : σ → Prop) (ended : α → σ → Prop) :
    Dialogue Answer α → σ → Prop
  | .done value, state => kept state ∧ ended value state
  | .ask question next, state =>
    kept state ∧ ∀ answer state', allows state ⟨question, answer⟩ state' →
      (next answer).Keeps allows kept ended state'

theorem Keeps.bind {middle : α → σ → Prop} {ended : β → σ → Prop} {first : Dialogue Answer α}
    {next : α → Dialogue Answer β} {state : σ} (h : first.Keeps allows kept middle state)
    (hnext : ∀ value state, kept state → middle value state →
      (next value).Keeps allows kept ended state) :
    (first >>= next).Keeps allows kept ended state := by
  induction first generalizing state with
  | done value => exact hnext value state h.1 h.2
  | ask question rest ih =>
      exact ⟨h.1, fun answer state' hallows => ih answer (h.2 answer state' hallows)⟩

/-- What is kept for an image of the state, where the contract of the state lies within that of its image. -/
theorem Keeps.of_image {τ : Type} (image : τ → σ) {allows' : τ → Exchange Answer → τ → Prop}
    {ended : α → σ → Prop} {dialogue : Dialogue Answer α} {state : τ}
    (hallows : ∀ before said after, allows' before said after →
      allows (image before) said (image after))
    (h : dialogue.Keeps allows kept ended (image state)) :
    dialogue.Keeps allows' (fun state => kept (image state))
      (fun value state => ended value (image state)) state := by
  induction dialogue generalizing state with
  | done value => exact h
  | ask question next ih =>
      exact ⟨h.1, fun answer state' hanswer => ih answer (h.2 answer _ (hallows _ _ _ hanswer))⟩

/-- Assertions may be weakened. -/
theorem Keeps.imp {kept' : σ → Prop} {ended ended' : α → σ → Prop} {dialogue : Dialogue Answer α}
    {state : σ} (h : dialogue.Keeps allows kept ended state) (hkept : ∀ state, kept state → kept' state)
    (hended : ∀ value state, ended value state → ended' value state) :
    dialogue.Keeps allows kept' ended' state := by
  induction dialogue generalizing state with
  | done value => exact ⟨hkept _ h.1, hended _ _ h.2⟩
  | ask question next ih =>
      exact ⟨hkept _ h.1, fun answer state' hanswer => ih answer (h.2 answer state' hanswer)⟩

/-- Two assertions about the end hold together. -/
theorem Keeps.and {kept' : σ → Prop} {ended ended' : α → σ → Prop} {dialogue : Dialogue Answer α}
    {state : σ} (h : dialogue.Keeps allows kept ended state)
    (h' : dialogue.Keeps allows kept' ended' state) :
    dialogue.Keeps allows (fun state => kept state ∧ kept' state)
      (fun value state => ended value state ∧ ended' value state) state := by
  induction dialogue generalizing state with
  | done value => exact ⟨⟨h.1, h'.1⟩, h.2, h'.2⟩
  | ask question next ih =>
      exact ⟨⟨h.1, h'.1⟩, fun answer state' hanswer =>
        ih answer (h.2 answer state' hanswer) (h'.2 answer state' hanswer)⟩

/-- The rule for a question that is asked before something that may fail. -/
theorem Keeps.run_question_bind {ended : Except ε α → σ → Prop} {q : Question}
    {next : Answer q → ExceptT ε (Dialogue Answer) α} {state : σ} (hkept : kept state)
    (hnext : ∀ answer state', allows state ⟨q, answer⟩ state' →
      (next answer).run.Keeps allows kept ended state') :
    ((liftM (question q : Dialogue Answer (Answer q)) : ExceptT ε (Dialogue Answer) (Answer q)) >>=
      next).run.Keeps allows kept ended state :=
  ⟨hkept, hnext⟩

/-- The rule for a part that cannot fail. -/
theorem Keeps.run_lift_bind {middle : α → σ → Prop} {ended : Except ε β → σ → Prop}
    {first : Dialogue Answer α} {next : α → ExceptT ε (Dialogue Answer) β} {state : σ}
    (h : first.Keeps allows kept middle state)
    (hnext : ∀ value state, kept state → middle value state →
      (next value).run.Keeps allows kept ended state) :
    ((liftM first : ExceptT ε (Dialogue Answer) α) >>= next).run.Keeps allows kept ended state := by
  have hrun : ((liftM first : ExceptT ε (Dialogue Answer) α) >>= next).run =
      first >>= fun value => (next value).run := bind_bind first _ _
  rw [hrun]
  exact h.bind hnext

/-- The rule for sequences that may fail: a failure of the first part is the failure of the whole. -/
theorem Keeps.run_bind {middle : Except ε α → σ → Prop} {ended : Except ε β → σ → Prop}
    {first : ExceptT ε (Dialogue Answer) α} {next : α → ExceptT ε (Dialogue Answer) β} {state : σ}
    (h : first.run.Keeps allows kept middle state)
    (hok : ∀ value state, kept state → middle (.ok value) state →
      (next value).run.Keeps allows kept ended state)
    (herror : ∀ failure state, middle (.error failure) state → ended (.error failure) state) :
    (first >>= next).run.Keeps allows kept ended state := by
  rw [ExceptT.run_bind]
  refine h.bind fun result state hkept hmiddle => ?_
  cases result with
  | ok value => exact hok value state hkept hmiddle
  | error failure => exact ⟨hkept, herror failure state hmiddle⟩

/-- An oracle whose state changes within what is allowed keeps what a dialogue keeps. -/
theorem Keeps.transcript {ended : α → σ → Prop} {oracle : Oracle Answer}
    {stateAfter : List (Exchange Answer) → σ}
    (hallows : ∀ past question, allows (stateAfter past) ⟨question, oracle past question⟩
      (stateAfter (past ++ [⟨question, oracle past question⟩])))
    {dialogue : Dialogue Answer α} {past : List (Exchange Answer)}
    (h : dialogue.Keeps allows kept ended (stateAfter past)) :
    let said := dialogue.transcript oracle past
    (∀ before, before <+: said.1 → kept (stateAfter (past ++ before))) ∧
      ended said.2 (stateAfter (past ++ said.1)) := by
  induction dialogue generalizing past with
  | done value =>
      refine ⟨fun before hbefore => ?_, ?_⟩
      · rw [List.prefix_nil.1 hbefore, List.append_nil]
        exact h.1
      · show ended value (stateAfter (past ++ []))
        rw [List.append_nil]
        exact h.2
  | ask question next ih =>
      obtain ⟨hbefore, hended⟩ := ih _ (h.2 _ _ (hallows past question))
      rw [List.append_assoc] at hended
      refine ⟨fun before hprefix => ?_, hended⟩
      rcases List.prefix_cons_iff.1 hprefix with rfl | ⟨later, rfl, hlater⟩
      · rw [List.append_nil]
        exact h.1
      · have hkept := hbefore later hlater
        rw [List.append_assoc] at hkept
        exact hkept

/-- `Keeps.transcript` where the oracle is known to do what is allowed only from now on. -/
theorem Keeps.transcript_after {ended : α → σ → Prop} {oracle : Oracle Answer}
    {stateAfter : List (Exchange Answer) → σ} {past : List (Exchange Answer)}
    (hallows : ∀ later question,
      allows (stateAfter (past ++ later)) ⟨question, oracle (past ++ later) question⟩
        (stateAfter (past ++ (later ++ [⟨question, oracle (past ++ later) question⟩]))))
    {dialogue : Dialogue Answer α} (h : dialogue.Keeps allows kept ended (stateAfter past)) :
    let said := dialogue.transcript oracle past
    ended said.2 (stateAfter (past ++ said.1)) := by
  rw [← List.append_nil past] at h
  have hended := (@Keeps.transcript _ _ _ _ _ _ _ (fun later => oracle (past ++ later))
    (fun later => stateAfter (past ++ later)) hallows dialogue [] h).2
  rw [← transcript_append, List.append_nil] at hended
  exact hended

/-! ## Simulated oracles -/

section

variable (simulate : σ → (question : Question) → Answer question × σ) (start : σ)

/-- The state after what was said, where a simulation answers each question and changes the state. -/
def simulatedAfter (past : List (Exchange Answer)) : σ :=
  past.foldl (fun state said => (simulate state said.question).2) start

/-- The oracle that answers by a simulation. -/
def simulated : Oracle Answer :=
  fun past question => (simulate (simulatedAfter simulate start past) question).1

theorem simulatedAfter_concat (past : List (Exchange Answer)) (said : Exchange Answer) :
    simulatedAfter simulate start (past ++ [said]) =
      (simulate (simulatedAfter simulate start past) said.question).2 := by
  rw [simulatedAfter, List.foldl_append]
  rfl

/-- The simulated oracle does what is allowed if each answer of the simulation does. -/
theorem allows_simulated
    (h : ∀ state question, allows state ⟨question, (simulate state question).1⟩ (simulate state question).2)
    (past : List (Exchange Answer)) (question : Question) :
    allows (simulatedAfter simulate start past) ⟨question, simulated simulate start past question⟩
      (simulatedAfter simulate start (past ++ [⟨question, simulated simulate start past question⟩])) := by
  rw [simulatedAfter_concat]
  exact h _ question

end

/-! ## What is said, and what it does -/

/-- What is said takes a state to another one, within what is allowed. -/
inductive Evolves (allows : σ → Exchange Answer → σ → Prop) : σ → List (Exchange Answer) → σ → Prop where
  | nil (state : σ) : Evolves allows state [] state
  | cons {before middle after : σ} {said : Exchange Answer} {later : List (Exchange Answer)}
      (h : allows before said middle) (rest : Evolves allows middle later after) :
      Evolves allows before (said :: later) after

/-- What is said first leads to a state from which the rest goes on. -/
theorem Evolves.of_append {before after : σ} {said later : List (Exchange Answer)}
    (h : Evolves allows before (said ++ later) after) :
    ∃ middle, Evolves allows before said middle ∧ Evolves allows middle later after := by
  induction said generalizing before with
  | nil => exact ⟨before, .nil before, h⟩
  | cons first rest ih =>
      cases h with
      | cons hallows hrest =>
          obtain ⟨middle, hmiddle, hlater⟩ := ih hrest
          exact ⟨middle, .cons hallows hmiddle, hlater⟩

/-- What a dialogue says to an oracle that does what is allowed takes the state from before to after. -/
theorem evolves_transcript {oracle : Oracle Answer} {stateAfter : List (Exchange Answer) → σ}
    (hallows : ∀ past question, allows (stateAfter past) ⟨question, oracle past question⟩
      (stateAfter (past ++ [⟨question, oracle past question⟩])))
    (dialogue : Dialogue Answer α) (past : List (Exchange Answer)) :
    Evolves allows (stateAfter past) (dialogue.transcript oracle past).1
      (stateAfter (past ++ (dialogue.transcript oracle past).1)) := by
  induction dialogue generalizing past with
  | done value =>
      show Evolves allows (stateAfter past) [] (stateAfter (past ++ []))
      rw [List.append_nil]
      exact .nil _
  | ask question next ih =>
      have hrest := ih (oracle past question) (past ++ [⟨question, oracle past question⟩])
      rw [List.append_assoc] at hrest
      exact .cons (hallows past question) hrest

/-- What holds wherever a dialogue leads. -/
theorem keeps_of_leads {ended : α → σ → Prop} {dialogue : Dialogue Answer α} {state : σ}
    (h : ∀ said value after, dialogue.Leads said value → Evolves allows state said after →
      ended value after) : dialogue.Keeps allows (fun _ => True) ended state := by
  induction dialogue generalizing state with
  | done value => exact ⟨trivial, h [] value state (.done value) (.nil state)⟩
  | ask question next ih =>
      refine ⟨trivial, fun answer state' hallows => ih answer fun said value after hleads hevolves => ?_⟩
      exact h _ value after (.ask answer hleads) (.cons hallows hevolves)

end PullRequestBot.Dialogue
