set_option autoImplicit false

/-! # Dialogues

A `Dialogue` is a computation that may ask questions before it ends with a value. What a question
can be answered with depends on the question. A dialogue says nothing about where its answers come
from, so a statement about all dialogues' answers covers a host whose behaviour depends on everything
asked before. `answerWith` runs a dialogue in a monad that can answer; `expandWith` answers each
question by a dialogue of another kind. -/

namespace PullRequestBot

/-- A computation that ends with a value, or asks a question and goes on with the answer. -/
inductive Dialogue {Question : Type} (Answer : Question → Type) (α : Type) : Type where
  | done (value : α)
  | ask (question : Question) (next : Answer question → Dialogue Answer α)

namespace Dialogue

variable {Question : Type} {Answer : Question → Type} {α β γ : Type}

/-! ## Sequencing -/

/-- Goes on with `next` where the dialogue ends. -/
def bind (dialogue : Dialogue Answer α) (next : α → Dialogue Answer β) : Dialogue Answer β :=
  match dialogue with
  | .done value => next value
  | .ask question rest => .ask question fun answer => (rest answer).bind next

instance : Monad (Dialogue Answer) where
  pure := .done
  bind := bind

@[simp] theorem done_bind (value : α) (next : α → Dialogue Answer β) :
    (Dialogue.done value >>= next) = next value := rfl

@[simp] theorem ask_bind (question : Question) (rest : Answer question → Dialogue Answer α)
    (next : α → Dialogue Answer β) :
    (Dialogue.ask question rest >>= next) = .ask question fun answer => rest answer >>= next := rfl

theorem bind_done (dialogue : Dialogue Answer α) : (dialogue >>= .done) = dialogue := by
  induction dialogue with
  | done value => rfl
  | ask question rest ih => simp only [ask_bind, ih]

theorem bind_bind (dialogue : Dialogue Answer α) (f : α → Dialogue Answer β)
    (g : β → Dialogue Answer γ) :
    (dialogue >>= f >>= g) = dialogue >>= fun value => f value >>= g := by
  induction dialogue with
  | done value => rfl
  | ask question rest ih => simp only [ask_bind, ih]

instance : LawfulMonad (Dialogue Answer) :=
  LawfulMonad.mk' _ bind_done (fun _ _ => rfl) bind_bind

/-- The dialogue that asks one question and ends with its answer. -/
def question (q : Question) : Dialogue Answer (Answer q) :=
  .ask q .done

/-! ## Answering -/

/-- Runs a dialogue, answering its questions in a monad. -/
def answerWith {m : Type → Type} [Monad m] (answer : (q : Question) → m (Answer q)) :
    Dialogue Answer α → m α
  | .done value => pure value
  | .ask q next => do
    let reply ← answer q
    (next reply).answerWith answer

/-- Answers each question by a dialogue of another kind. -/
def expandWith {Question' : Type} {Answer' : Question' → Type}
    (answer : (q : Question) → Dialogue Answer' (Answer q)) (dialogue : Dialogue Answer α) :
    Dialogue Answer' α :=
  dialogue.answerWith answer

end Dialogue

end PullRequestBot
