import PullRequestBot.Dialogue

set_option autoImplicit false

/-! # Transcripts of dialogues

An oracle answers the questions of a dialogue and may look at everything that was said before. The
transcript of a dialogue with an oracle lists each question with its answer, in order, and comes with
the value at the end; it always exists, because a dialogue has no infinite branch.

`Leads` says the same without an oracle: some answers take the dialogue through these exchanges to this
value. Statements about every oracle are proved about `Leads`, which splits along sequencing
(`leads_bind_iff`), and carried over by `leads_transcript`. -/

namespace PullRequestBot.Dialogue

variable {Question : Type} {Answer : Question → Type} {α β ε : Type}

/-! ## Exchanges and oracles -/

/-- A question with the answer that it got. -/
structure Exchange {Question : Type} (Answer : Question → Type) where
  question : Question
  answer : Answer question

/-- Answers every question, in view of all that was said before. -/
abbrev Oracle {Question : Type} (Answer : Question → Type) : Type :=
  List (Exchange Answer) → (question : Question) → Answer question

/-- What is said from now on, and the value at the end. -/
def transcript (oracle : Oracle Answer) (past : List (Exchange Answer)) :
    Dialogue Answer α → List (Exchange Answer) × α
  | .done value => ([], value)
  | .ask question next =>
    let exchange : Exchange Answer := ⟨question, oracle past question⟩
    let later := (next exchange.answer).transcript oracle (past ++ [exchange])
    (exchange :: later.1, later.2)

/-- What is said after a longer past, to an oracle that knows the first part of it anyway. -/
theorem transcript_append (oracle : Oracle Answer) (past later : List (Exchange Answer))
    (dialogue : Dialogue Answer α) :
    dialogue.transcript oracle (past ++ later) =
      dialogue.transcript (fun said => oracle (past ++ said)) later := by
  induction dialogue generalizing later with
  | done value => rfl
  | ask question next ih =>
      simp only [transcript]
      rw [List.append_assoc, ih]

/-- A sequence says what its first part says, then what its second part says. -/
theorem transcript_bind (oracle : Oracle Answer) (past : List (Exchange Answer))
    (first : Dialogue Answer α) (next : α → Dialogue Answer β) :
    let said := first.transcript oracle past
    let later := (next said.2).transcript oracle (past ++ said.1)
    (first >>= next).transcript oracle past = (said.1 ++ later.1, later.2) := by
  induction first generalizing past with
  | done value => simp [transcript]
  | ask question rest ih =>
      rw [ask_bind, transcript, transcript]
      dsimp only
      rw [ih]
      simp [List.append_assoc]

/-- A sequence that may fail says what its first part says, then what its second part says, if it comes to
    that. -/
theorem transcript_run_bind (oracle : Oracle Answer) (past : List (Exchange Answer))
    (first : ExceptT ε (Dialogue Answer) α) (next : α → ExceptT ε (Dialogue Answer) β) :
    let said := first.run.transcript oracle past
    let later := (match said.2 with
      | .ok value => (next value).run
      | .error failure => done (.error failure)).transcript oracle (past ++ said.1)
    (first >>= next).run.transcript oracle past = (said.1 ++ later.1, later.2) := by
  rw [ExceptT.run_bind, transcript_bind]
  dsimp only
  cases (first.run.transcript oracle past).2 <;> rfl

/-- A sequence whose first part cannot fail goes on with its value. -/
theorem run_lift_bind (first : Dialogue Answer α) (next : α → ExceptT ε (Dialogue Answer) β) :
    ((liftM first : ExceptT ε (Dialogue Answer) α) >>= next).run =
      first >>= fun middle => (next middle).run :=
  bind_bind first _ _

/-- The result of a sequence whose first part cannot fail. -/
theorem result_lift_bind (oracle : Oracle Answer) (past : List (Exchange Answer))
    (first : Dialogue Answer α) (next : α → ExceptT ε (Dialogue Answer) β) :
    (((liftM first : ExceptT ε (Dialogue Answer) α) >>= next).run.transcript oracle past).2 =
      ((next (first.transcript oracle past).2).run.transcript oracle
        (past ++ (first.transcript oracle past).1)).2 := by
  rw [run_lift_bind, transcript_bind]

/-! ## Answers that do not change -/

/-- How a dialogue ends in a world in which every question has one answer. -/
def endIn (world : (question : Question) → Answer question) (dialogue : Dialogue Answer α) : α :=
  dialogue.answerWith (m := Id) world

@[simp] theorem endIn_done (world : (question : Question) → Answer question) (value : α) :
    endIn world (.done value) = value := rfl

@[simp] theorem endIn_ask (world : (question : Question) → Answer question) (question : Question)
    (next : Answer question → Dialogue Answer α) :
    endIn world (.ask question next) = endIn world (next (world question)) := rfl

@[simp] theorem endIn_bind (world : (question : Question) → Answer question)
    (first : Dialogue Answer α) (next : α → Dialogue Answer β) :
    endIn world (first >>= next) = endIn world (next (endIn world first)) := by
  induction first with
  | done value => rfl
  | ask question rest ih => exact ih _

/-! ## Where answers lead -/

/-- Some answers take the dialogue through the exchanges to the value. -/
inductive Leads : Dialogue Answer α → List (Exchange Answer) → α → Prop where
  | done (value : α) : Leads (.done value) [] value
  | ask {question : Question} {next : Answer question → Dialogue Answer α}
      {exchanges : List (Exchange Answer)} {value : α} (answer : Answer question)
      (later : Leads (next answer) exchanges value) :
      Leads (.ask question next) (⟨question, answer⟩ :: exchanges) value

/-- A dialogue leads through each of its transcripts. -/
theorem leads_transcript (oracle : Oracle Answer) (past : List (Exchange Answer))
    (dialogue : Dialogue Answer α) :
    dialogue.Leads (dialogue.transcript oracle past).1 (dialogue.transcript oracle past).2 := by
  induction dialogue generalizing past with
  | done value => exact .done value
  | ask question next ih => exact .ask _ (ih _ _)

/-- Some exchanges lead to where a dialogue ends in a world. -/
theorem exists_leads_endIn (world : (question : Question) → Answer question)
    (dialogue : Dialogue Answer α) : ∃ exchanges, dialogue.Leads exchanges (endIn world dialogue) := by
  induction dialogue with
  | done value => exact ⟨[], .done value⟩
  | ask question next ih =>
      obtain ⟨exchanges, hleads⟩ := ih (world question)
      exact ⟨_, .ask (world question) hleads⟩

@[simp] theorem leads_done_iff {value value' : α} {exchanges : List (Exchange Answer)} :
    (done value : Dialogue Answer α).Leads exchanges value' ↔ exchanges = [] ∧ value' = value := by
  constructor
  · intro h
    cases h
    exact ⟨rfl, rfl⟩
  · rintro ⟨rfl, rfl⟩
    exact .done value'

theorem leads_ask_iff {question : Question} {next : Answer question → Dialogue Answer α}
    {exchanges : List (Exchange Answer)} {value : α} :
    (ask question next).Leads exchanges value ↔
      ∃ answer later, exchanges = ⟨question, answer⟩ :: later ∧ (next answer).Leads later value := by
  constructor
  · intro h
    cases h with
    | ask answer later => exact ⟨answer, _, rfl, later⟩
  · rintro ⟨answer, later, rfl, h⟩
    exact .ask answer h

@[simp] theorem leads_question_iff {q : Question} {exchanges : List (Exchange Answer)}
    {answer : Answer q} :
    (question q : Dialogue Answer (Answer q)).Leads exchanges answer ↔ exchanges = [⟨q, answer⟩] := by
  rw [question, leads_ask_iff]
  constructor
  · rintro ⟨answer', later, rfl, h⟩
    obtain ⟨rfl, rfl⟩ := leads_done_iff.1 h
    rfl
  · rintro rfl
    exact ⟨answer, [], rfl, .done answer⟩

/-- A sequence leads through what its first part says, then through what its second part says. -/
theorem leads_bind_iff {first : Dialogue Answer α} {next : α → Dialogue Answer β}
    {exchanges : List (Exchange Answer)} {value : β} :
    (first >>= next).Leads exchanges value ↔
      ∃ before middle after, exchanges = before ++ after ∧ first.Leads before middle ∧
        (next middle).Leads after value := by
  induction first generalizing exchanges with
  | done middle =>
      rw [done_bind]
      constructor
      · intro h
        exact ⟨[], middle, exchanges, rfl, .done middle, h⟩
      · rintro ⟨before, middle', after, rfl, hfirst, h⟩
        obtain ⟨rfl, rfl⟩ := leads_done_iff.1 hfirst
        exact h
  | ask q rest ih =>
      rw [ask_bind, leads_ask_iff]
      constructor
      · rintro ⟨answer, later, rfl, h⟩
        obtain ⟨before, middle, after, rfl, hfirst, hnext⟩ := (ih answer).1 h
        exact ⟨⟨q, answer⟩ :: before, middle, after, rfl, .ask answer hfirst, hnext⟩
      · rintro ⟨before, middle, after, rfl, hfirst, hnext⟩
        obtain ⟨answer, later, rfl, hlater⟩ := leads_ask_iff.1 hfirst
        exact ⟨answer, later ++ after, rfl, (ih answer).2 ⟨later, middle, after, rfl, hlater, hnext⟩⟩

/-- A sequence that may fail ends with the failure of its first part, or goes on with its value. -/
theorem leads_run_bind_iff {first : ExceptT ε (Dialogue Answer) α}
    {next : α → ExceptT ε (Dialogue Answer) β} {exchanges : List (Exchange Answer)}
    {result : Except ε β} :
    (first >>= next).run.Leads exchanges result ↔
      (∃ failure, result = .error failure ∧ first.run.Leads exchanges (.error failure)) ∨
        ∃ before middle after, exchanges = before ++ after ∧ first.run.Leads before (.ok middle) ∧
          (next middle).run.Leads after result := by
  rw [ExceptT.run_bind, leads_bind_iff]
  constructor
  · rintro ⟨before, middle, after, rfl, hfirst, h⟩
    cases middle with
    | error failure =>
        obtain ⟨rfl, rfl⟩ := leads_done_iff.1 h
        rw [List.append_nil]
        exact Or.inl ⟨failure, rfl, hfirst⟩
    | ok middle => exact Or.inr ⟨before, middle, after, rfl, hfirst, h⟩
  · rintro (⟨failure, rfl, hfirst⟩ | ⟨before, middle, after, rfl, hfirst, h⟩)
    · exact ⟨exchanges, .error failure, [], (List.append_nil _).symm, hfirst, .done _⟩
    · exact ⟨before, .ok middle, after, rfl, hfirst, h⟩

/-- A part whose value is only turned into another one. -/
theorem leads_run_bind_pure_iff {first : ExceptT ε (Dialogue Answer) α} {f : α → β}
    {exchanges : List (Exchange Answer)} {result : Except ε β} :
    (first >>= fun value => pure (f value)).run.Leads exchanges result ↔
      ∃ middle, first.run.Leads exchanges middle ∧ result = middle.map f := by
  rw [ExceptT.run_bind, leads_bind_iff]
  constructor
  · rintro ⟨before, middle, after, rfl, hfirst, h⟩
    cases middle with
    | ok value | error failure =>
        obtain ⟨rfl, rfl⟩ := leads_done_iff.1 h
        rw [List.append_nil]
        exact ⟨_, hfirst, rfl⟩
  · rintro ⟨middle, hfirst, rfl⟩
    refine ⟨exchanges, middle, [], (List.append_nil _).symm, hfirst, ?_⟩
    cases middle with
    | ok value | error failure => exact .done _

/-- A sequence whose first part cannot fail leads through both parts. -/
theorem leads_run_lift_bind_iff {first : Dialogue Answer α}
    {next : α → ExceptT ε (Dialogue Answer) β} {exchanges : List (Exchange Answer)}
    {result : Except ε β} :
    ((liftM first : ExceptT ε (Dialogue Answer) α) >>= next).run.Leads exchanges result ↔
      ∃ before middle after, exchanges = before ++ after ∧ first.Leads before middle ∧
        (next middle).run.Leads after result := by
  rw [run_lift_bind, leads_bind_iff]

/-- A sequence on a state that may fail: a failure of the first part is the failure of the whole, and the
    second part starts with the state that the first part leaves. -/
theorem leads_stateful_bind_iff {σ : Type} {first : ExceptT ε (StateT σ (Dialogue Answer)) α}
    {next : α → ExceptT ε (StateT σ (Dialogue Answer)) β} {before : σ}
    {exchanges : List (Exchange Answer)} {ended : Except ε β × σ} :
    ((first >>= next).run.run before).Leads exchanges ended ↔
      (∃ failure after, ended = (.error failure, after) ∧
          (first.run.run before).Leads exchanges (.error failure, after)) ∨
        ∃ now value middle later, exchanges = now ++ later ∧
          (first.run.run before).Leads now (.ok value, middle) ∧
          ((next value).run.run middle).Leads later ended := by
  rw [ExceptT.run_bind, StateT.run_bind, leads_bind_iff]
  constructor
  · rintro ⟨now, ⟨result, middle⟩, later, rfl, hfirst, h⟩
    cases result with
    | error failure =>
        obtain ⟨rfl, rfl⟩ := leads_done_iff.1 h
        rw [List.append_nil]
        exact Or.inl ⟨failure, middle, rfl, hfirst⟩
    | ok value => exact Or.inr ⟨now, value, middle, later, rfl, hfirst, h⟩
  · rintro (⟨failure, after, rfl, hfirst⟩ | ⟨now, value, middle, later, rfl, hfirst, h⟩)
    · exact ⟨exchanges, (.error failure, after), [], (List.append_nil _).symm, hfirst, .done _⟩
    · exact ⟨now, (.ok value, middle), later, rfl, hfirst, h⟩

/-! ## What holds whatever the answers are -/

/-- Whatever the answers are, each question asked satisfies `asked` and the value `ended`. -/
def Always (asked : Question → Prop) (ended : α → Prop) : Dialogue Answer α → Prop
  | .done value => ended value
  | .ask question next => asked question ∧ ∀ answer, (next answer).Always asked ended

variable {asked : Question → Prop}

theorem Always.leads {ended : α → Prop} {dialogue : Dialogue Answer α}
    {exchanges : List (Exchange Answer)} {value : α} (h : dialogue.Always asked ended)
    (hleads : dialogue.Leads exchanges value) :
    (∀ exchange ∈ exchanges, asked exchange.question) ∧ ended value := by
  induction hleads with
  | done value => exact ⟨fun _ hmem => absurd hmem List.not_mem_nil, h⟩
  | ask answer _ ih =>
      obtain ⟨hlater, hended⟩ := ih (h.2 answer)
      exact ⟨List.forall_mem_cons.2 ⟨h.1, hlater⟩, hended⟩

/-- Assertions may be weakened. -/
theorem Always.imp {asked' : Question → Prop} {ended ended' : α → Prop} {dialogue : Dialogue Answer α}
    (h : dialogue.Always asked ended) (hasked : ∀ question, asked question → asked' question)
    (hended : ∀ value, ended value → ended' value) : dialogue.Always asked' ended' := by
  induction dialogue with
  | done value => exact hended value h
  | ask question next ih => exact ⟨hasked question h.1, fun answer => ih answer (h.2 answer)⟩

/-- In two worlds that answer the questions of a dialogue alike, it ends alike. -/
theorem Always.endIn_congr {ended : α → Prop} {dialogue : Dialogue Answer α}
    {world world' : (question : Question) → Answer question} (h : dialogue.Always asked ended)
    (hsame : ∀ question, asked question → world question = world' question) :
    endIn world dialogue = endIn world' dialogue := by
  induction dialogue with
  | done value => rfl
  | ask question next ih =>
      rw [endIn_ask, endIn_ask, hsame question h.1]
      exact ih _ (h.2 _)

theorem always_true (dialogue : Dialogue Answer α) : dialogue.Always (fun _ => True) fun _ => True := by
  induction dialogue with
  | done value => exact trivial
  | ask question next ih => exact ⟨trivial, ih⟩

theorem always_question {q : Question} (h : asked q) :
    (question q : Dialogue Answer (Answer q)).Always asked fun _ => True :=
  ⟨h, fun _ => trivial⟩

theorem Always.bind {middle : α → Prop} {ended : β → Prop} {first : Dialogue Answer α}
    {next : α → Dialogue Answer β} (h : first.Always asked middle)
    (hnext : ∀ value, middle value → (next value).Always asked ended) :
    (first >>= next).Always asked ended := by
  induction first with
  | done value => exact hnext value h
  | ask q rest ih => exact ⟨h.1, fun answer => ih answer (h.2 answer)⟩

/-- The rule for dialogues whose questions are answered by dialogues of another kind. -/
theorem Always.expandWith {Question' : Type} {Answer' : Question' → Type} {asked' : Question' → Prop}
    {ended : α → Prop} {answer : (q : Question) → Dialogue Answer' (Answer q)}
    {dialogue : Dialogue Answer α} (h : dialogue.Always asked ended)
    (hanswer : ∀ q, asked q → (answer q).Always asked' fun _ => True) :
    (dialogue.expandWith answer).Always asked' ended := by
  induction dialogue with
  | done value => exact h
  | ask q next ih => exact (hanswer q h.1).bind fun reply _ => ih reply (h.2 reply)

/-- The rule for loops over a list. -/
theorem always_forIn {items : List β} {state : α} {body : β → α → Dialogue Answer (ForInStep α)}
    (h : ∀ item state, (body item state).Always asked fun _ => True) :
    (forIn items state body).Always asked fun _ => True := by
  induction items generalizing state with
  | nil => exact trivial
  | cons item rest ih =>
      rw [List.forIn_cons]
      refine (h item state).bind fun step _ => ?_
      cases step with
      | done state => exact trivial
      | yield state => exact ih

/-- A result is a value with `succeeded`, or a failure with `failed`. -/
def Settles (succeeded : α → Prop) (failed : ε → Prop) : Except ε α → Prop
  | .ok value => succeeded value
  | .error failure => failed failure

/-- The rule for sequences that may fail: a failure of the first part is the failure of the whole. -/
theorem Always.run_bind {middle : α → Prop} {ended : Except ε β → Prop}
    {first : ExceptT ε (Dialogue Answer) α} {next : α → ExceptT ε (Dialogue Answer) β}
    (h : first.run.Always asked (Settles middle fun failure => ended (.error failure)))
    (hnext : ∀ value, middle value → (next value).run.Always asked ended) :
    (first >>= next).run.Always asked ended := by
  rw [ExceptT.run_bind]
  refine h.bind fun result hresult => ?_
  cases result with
  | ok value => exact hnext value hresult
  | error failure => exact hresult

/-- The rule for sequences whose first part cannot fail. -/
theorem Always.run_lift_bind {ended : Except ε β → Prop} {first : Dialogue Answer α}
    {next : α → ExceptT ε (Dialogue Answer) β} (h : first.Always asked fun _ => True)
    (hnext : ∀ value, (next value).run.Always asked ended) :
    ((liftM first : ExceptT ε (Dialogue Answer) α) >>= next).run.Always asked ended := by
  have hlift : (liftM first : ExceptT ε (Dialogue Answer) α).run.Always asked
      (Settles (fun _ => True) fun failure => ended (.error failure)) :=
    h.bind fun _ _ => trivial
  exact hlift.run_bind fun value _ => hnext value

end PullRequestBot.Dialogue
