import Dispatch.Host.Call
import Dispatch.Notification.Basic
import Dispatch.Operation.Error
import Dispatch.Store.Call

/-!
# Operations

What the dispatcher does in answer to a request, step by step: it calls the store, it calls the
code host, and it hands notifications over. A program says which step comes next, given the
answers so far; who carries it out decides what the answers are. So one definition serves for a
store that fails, for a code host that answers at will, and for several requests whose steps
alternate.

## Main definitions

* `Program`: the steps of a request.
* `Program.run`: carries a program out in surroundings that answer its calls.
* `Operation`: a program that may end with an error.
-/

namespace Dispatch

/-- A **program** of calls and notifications that ends with a result. -/
inductive Program (α : Type) where
  | done (result : α)
  | store (call : StoreCall) (next : Except StoreError call.Reply → Program α)
  | host (token : String) (call : HostCall) (next : Except HostError call.Reply → Program α)
  | notify (notification : Notification) (next : Program α)
  /-- The program has been cut off at the limit it was given, or has broken down. -/
  | overrun

namespace Program

variable {α β : Type}

/-- Goes on with the result of a program. -/
def bind (p : Program α) (f : α → Program β) : Program β :=
  match p with
  | done a => f a
  | store call next => store call fun reply => (next reply).bind f
  | host token call next => host token call fun reply => (next reply).bind f
  | notify notification next => notify notification (next.bind f)
  | overrun => overrun

instance : Monad Program where
  pure := done
  bind := bind

@[simp] theorem pure_eq_done (a : α) : (pure a : Program α) = done a := rfl

@[simp] theorem bind_eq (p : Program α) (f : α → Program β) : p >>= f = p.bind f := rfl

@[simp] theorem bind_done (p : Program α) : p.bind done = p := by
  induction p with
  | done a => rfl
  | store call next ih => simp only [bind]; congr; funext reply; exact ih reply
  | host token call next ih => simp only [bind]; congr; funext reply; exact ih reply
  | notify notification next ih => simp only [bind, ih]
  | overrun => rfl

theorem bind_assoc {γ : Type} (p : Program α) (f : α → Program β) (g : β → Program γ) :
    (p.bind f).bind g = p.bind fun a => (f a).bind g := by
  induction p with
  | done a => rfl
  | store call next ih => simp only [bind]; congr; funext reply; exact ih reply
  | host token call next ih => simp only [bind]; congr; funext reply; exact ih reply
  | notify notification next ih => simp only [bind, ih]
  | overrun => rfl

instance : LawfulMonad Program :=
  LawfulMonad.mk' Program (fun p => bind_done p) (fun _ _ => rfl) bind_assoc

end Program

/-- **Surroundings** with a state answer the calls of a program. -/
structure Surroundings (σ : Type) where
  store : (call : StoreCall) → σ → Except StoreError call.Reply × σ
  host : String → (call : HostCall) → σ → Except HostError call.Reply × σ
  notify : Notification → σ → σ

/-- **Carries a program out**: its result and the state of the surroundings after it, or `none` if
it has been cut off or has broken down. -/
def Program.run {α σ : Type} (w : Surroundings σ) : Program α → σ → Option (α × σ)
  | .done a, s => some (a, s)
  | .store call next, s =>
    let (reply, s) := w.store call s
    (next reply).run w s
  | .host token call next, s =>
    let (reply, s) := w.host token call s
    (next reply).run w s
  | .notify notification next, s => next.run w (w.notify notification s)
  | .overrun, _ => none

/-- An **operation** is a program that ends with a value or with an error. -/
abbrev Operation := ExceptT OperationError Program

namespace Operation

variable {α : Type}

/-- Ends the operation with an error. -/
def fail (e : OperationError) : Operation α := throw e

/-- Breaks the operation off without any outcome. -/
def breakOff : Operation α := ExceptT.lift .overrun

/-- Calls the store and goes on with its answer, whatever it is. -/
def tryStore (call : StoreCall) : Operation (Except StoreError call.Reply) :=
  ExceptT.lift (.store call .done)

/-- Calls the code host and goes on with its answer, whatever it is. -/
def tryHost (token : String) (call : HostCall) : Operation (Except HostError call.Reply) :=
  ExceptT.lift (.host token call .done)

/-- Calls the store; a failure ends the operation. -/
def store (call : StoreCall) : Operation call.Reply := do
  match ← tryStore call with
  | .ok reply => return reply
  | .error e => fail e

/-- Calls the code host; a failure ends the operation. -/
def host (token : String) (call : HostCall) : Operation call.Reply := do
  match ← tryHost token call with
  | .ok reply => return reply
  | .error e => fail e

/-- Hands a notification over. -/
def notify (notification : Notification) : Operation Unit :=
  ExceptT.lift (.notify notification (.done ()))

/-- Goes on with the outcome of an operation, whatever it is. -/
def attempt (op : Operation α) : Operation (Except OperationError α) :=
  ExceptT.lift op.run

/-- What rests on the rules of the domain alone. -/
def ofDomain : Except DomainError α → Operation α
  | .ok a => return a
  | .error e => fail e

/-- What rests on a declaration alone. -/
def ofConfig : Except ConfigError α → Operation α
  | .ok a => return a
  | .error e => fail e

/-- An operation as a **stage** of a greater one; its errors say so. -/
def stage (name : String) (op : Operation α) : Operation α :=
  ExceptT.mk (op.run.bind fun
    | .ok a => .done (.ok a)
    | .error e => .done (.error (e.inStage name)))

end Operation

end Dispatch
