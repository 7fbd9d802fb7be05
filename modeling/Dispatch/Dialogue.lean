/-!
# Dialogues

Some work depends on answers from outside: what a file holds, what a server replies. A dialogue
says which question comes next, given the answers so far; who answers is left open. So the same
dialogue can be held with the world and with anything that stands for it in a statement.

## Main definitions

* `Dialogue`: questions, and a result at the end.
* `Dialogue.hold`: holds a dialogue with somebody who answers.

## Main results

* `Dialogue.hold_bind`: going on after a dialogue is going on after it has been held.
-/

namespace Dispatch

/-- A **dialogue** of questions, each with its own type of answer, that ends with a result. -/
inductive Dialogue (Q : Type) (Answer : Q → Type) (α : Type) where
  | done (result : α)
  | ask (question : Q) (next : Answer question → Dialogue Q Answer α)

namespace Dialogue

variable {Q : Type} {Answer : Q → Type} {α β γ : Type}

/-- Goes on with the result of a dialogue. -/
def bind (d : Dialogue Q Answer α) (f : α → Dialogue Q Answer β) : Dialogue Q Answer β :=
  match d with
  | done a => f a
  | ask question next => ask question fun answer => (next answer).bind f

instance : Monad (Dialogue Q Answer) where
  pure := done
  bind := bind

/-- The dialogue of a single question, with its answer as the result. -/
def question (q : Q) : Dialogue Q Answer (Answer q) := ask q done

@[simp] theorem pure_eq_done (a : α) : (pure a : Dialogue Q Answer α) = done a := rfl

@[simp] theorem bind_eq (d : Dialogue Q Answer α) (f : α → Dialogue Q Answer β) :
    d >>= f = d.bind f := rfl

@[simp] theorem bind_done (d : Dialogue Q Answer α) : d.bind done = d := by
  induction d with
  | done a => rfl
  | ask q next ih => simp only [bind]; congr; funext answer; exact ih answer

theorem bind_assoc (d : Dialogue Q Answer α) (f : α → Dialogue Q Answer β)
    (g : β → Dialogue Q Answer γ) : (d.bind f).bind g = d.bind fun a => (f a).bind g := by
  induction d with
  | done a => rfl
  | ask q next ih => simp only [bind]; congr; funext answer; exact ih answer

instance : LawfulMonad (Dialogue Q Answer) :=
  LawfulMonad.mk' (Dialogue Q Answer) (fun d => bind_done d) (fun _ _ => rfl) bind_assoc

/-- **Holds** a dialogue with somebody who answers each question. -/
def hold {m : Type → Type} [Monad m] (answer : (q : Q) → m (Answer q)) :
    Dialogue Q Answer α → m α
  | done a => pure a
  | ask q next => do
    let reply ← answer q
    (next reply).hold answer

/-- Going on after a dialogue is the same before and after it has been held. -/
theorem hold_bind {m : Type → Type} [Monad m] [LawfulMonad m] (answer : (q : Q) → m (Answer q))
    (d : Dialogue Q Answer α) (f : α → Dialogue Q Answer β) :
    (d.bind f).hold answer = d.hold answer >>= fun a => (f a).hold answer := by
  induction d with
  | done a => simp [bind, hold]
  | ask q next ih => simp [bind, hold, ih]

end Dialogue

end Dispatch
