import Dispatch.Proofs.Execution
import Dispatch.Submission.Intake

/-!
# The calls that a program makes

Which calls a program makes to the store and to the code host, whatever the answers are. Where
each of the calls to the store keeps a property of it, so does the program; this is how a property
of the store is carried through operations whose course does not matter for it.

## Main definitions

* `Program.Calls P Q`, `Operation.Calls P Q`: all calls to the store are of the kind `P`, and all
  calls to the code host of the kind `Q`.
* `Program.Asks P Q`, `Operation.Asks P Q`: besides, no notification is handed over.
* `HostCall.IsEssential`: a call to the code host whose answer the dispatcher goes by.
* `StoreCall.IsLookup`: a call that only looks something up.
* `StoreCall.AddsNoWork`: a call that adds no task and no run and puts none on the queue.
* `Operation.Compositional`: a property of operations that is kept when they are put together.

## Main results

* `Program.Ends.within`: what every call of a kind does to the store, such a program does.
* `Operation.Compositional.cancelTasks` and others: what canceling one task has, canceling many has.
* `Worker.calls_next`, `Cancellation.calls_task` and others: the operations that add no work.
-/

namespace Dispatch

/-- A call to the code host whose answer the dispatcher **goes by**. The others post and clear
statuses, or comment; the dispatcher tries them and puts up with their failure. -/
def HostCall.IsEssential : HostCall → Prop
  | postStatus _ _ _ | clearStatuses _ _ | comment _ _ _ => False
  | _ => True

namespace StoreCall

/-- A call that **only looks something up**. -/
def IsLookup : StoreCall → Prop
  | createUser _ _ | createRepository _ | findOrCreateRef _ _ _ | createSubmission _
  | createTask _ | cancelTask _ | createRun _ | finishRun _ _ | enqueue _ | dequeue _ _ => False
  | _ => True

/-- A call that adds no task and no run and puts none on the queue. -/
def AddsNoWork : StoreCall → Prop
  | createTask _ | createRun _ | enqueue _ => False
  | _ => True

theorem IsLookup.addsNoWork {call : StoreCall} (h : call.IsLookup) : call.AddsNoWork := by
  cases call <;> trivial

/-- Looking something up leaves the store as it is. -/
theorem IsLookup.run_eq {call : StoreCall} (h : call.IsLookup) (now : Timestamp) (s : Store) :
    (call.run now s).2 = s := by
  cases call <;> first | exact h.elim | rfl

end StoreCall

/-! ### Programs -/

namespace Program

variable {α β : Type} {P : StoreCall → Prop} {Q : HostCall → Prop}

/-- All **calls** to the store and to the code host are of the given kinds, whatever the answers
are. -/
def Calls (P : StoreCall → Prop) (Q : HostCall → Prop) : Program α → Prop
  | done _ => True
  | store call next => P call ∧ ∀ reply, (next reply).Calls P Q
  | host _ call next => Q call ∧ ∀ reply, (next reply).Calls P Q
  | notify _ next => next.Calls P Q
  | overrun => True

theorem Calls.bind {p : Program α} {f : α → Program β} (first : p.Calls P Q)
    (second : ∀ a, (f a).Calls P Q) : (p.bind f).Calls P Q := by
  induction p with
  | done a => exact second a
  | store call next ih => exact ⟨first.1, fun reply => ih reply (first.2 reply)⟩
  | host token call next ih => exact ⟨first.1, fun reply => ih reply (first.2 reply)⟩
  | notify n next ih => exact ih first
  | overrun => trivial

/-- **What each call does, the program does**: a relation that holds of every store and the one
that a call of the kind leaves is carried through the program, if it can be chained. -/
theorem Ends.within {R : Store → Store → Prop} (refl : ∀ s, R s s)
    (trans : ∀ s₁ s₂ s₃, R s₁ s₂ → R s₂ s₃ → R s₁ s₃)
    (step : ∀ call, P call → ∀ now s, R s (call.run now s).2) {p : Program α} {s s' : Store}
    {tr : Trace} {a : α} (h : p.Ends s tr a s') (calls : p.Calls P Q) : R s s' := by
  induction h with
  | done => exact refl _
  | store now _ ih => exact trans _ _ _ (step _ calls.1 now _) (ih (calls.2 _))
  | fault e _ ih => exact ih (calls.2 _)
  | host reply _ ih => exact ih (calls.2 reply)
  | notify _ ih => exact ih calls

/-- A property of the store that every call of a kind keeps is kept by the program. -/
theorem Ends.keeps {I : Store → Prop}
    (step : ∀ call, P call → ∀ now s, I s → I (call.run now s).2) {p : Program α}
    {s s' : Store} {tr : Trace} {a : α} (h : p.Ends s tr a s') (calls : p.Calls P Q)
    (holds : I s) : I s' :=
  h.within (R := fun s s' => I s → I s') (fun _ => id)
    (fun _ _ _ first second holds => second (first holds)) step calls holds

/-- A program that only looks things up leaves the store alone. -/
theorem Ends.store_eq {p : Program α} {s s' : Store} {tr : Trace} {a : α}
    (h : p.Ends s tr a s') (calls : p.Calls StoreCall.IsLookup Q) : s' = s :=
  h.within (R := fun s s' => s' = s) (fun _ => rfl) (fun _ _ _ first second => second.trans first)
    (fun _ lookup now s => lookup.run_eq now s) calls

theorem Calls.mono {P' : StoreCall → Prop} {Q' : HostCall → Prop}
    (more : ∀ call, P call → P' call) (more' : ∀ call, Q call → Q' call) {p : Program α}
    (h : p.Calls P Q) : p.Calls P' Q' := by
  induction p with
  | done a => trivial
  | store call next ih => exact ⟨more _ h.1, fun reply => ih reply (h.2 reply)⟩
  | host token call next ih => exact ⟨more' _ h.1, fun reply => ih reply (h.2 reply)⟩
  | notify n next ih => exact ih h
  | overrun => trivial

/-- Every program makes calls of some kind. -/
theorem calls_any (p : Program α) : p.Calls (fun _ => True) (fun _ => True) := by
  induction p with
  | done a => trivial
  | store call next ih => exact ⟨trivial, ih⟩
  | host token call next ih => exact ⟨trivial, ih⟩
  | notify n next ih => exact ih
  | overrun => trivial

/-- What the code host was asked is of the kind that the program asks it. -/
theorem Ends.asked {p : Program α} {s s' : Store} {tr : Trace} {a : α} (h : p.Ends s tr a s')
    (calls : p.Calls P Q) {token : String} {call : HostCall}
    {reply : Except HostError call.Reply} (mem : Event.host token call reply ∈ tr) : Q call := by
  induction h with
  | done => cases mem
  | store now _ ih => exact ih (calls.2 _) (by simpa using mem)
  | fault e _ ih => exact ih (calls.2 _) (by simpa using mem)
  | host reply' _ ih =>
      rcases List.mem_cons.mp mem with eq | later
      · injection eq with _ eq
        rw [eq]
        exact calls.1
      · exact ih (calls.2 _) later
  | notify _ ih => exact ih calls (by simpa using mem)

/-- All calls are of the given kinds, and **no notification** is handed over, whatever the answers
are. -/
def Asks (P : StoreCall → Prop) (Q : HostCall → Prop) : Program α → Prop
  | done _ => True
  | store call next => P call ∧ ∀ reply, (next reply).Asks P Q
  | host _ call next => Q call ∧ ∀ reply, (next reply).Asks P Q
  | notify _ _ => False
  | overrun => True

theorem Asks.calls {p : Program α} (h : p.Asks P Q) : p.Calls P Q := by
  induction p with
  | done a => trivial
  | store call next ih => exact ⟨h.1, fun reply => ih reply (h.2 reply)⟩
  | host token call next ih => exact ⟨h.1, fun reply => ih reply (h.2 reply)⟩
  | notify n next => exact h.elim
  | overrun => trivial

theorem Asks.bind {p : Program α} {f : α → Program β} (first : p.Asks P Q)
    (second : ∀ a, (f a).Asks P Q) : (p.bind f).Asks P Q := by
  induction p with
  | done a => exact second a
  | store call next ih => exact ⟨first.1, fun reply => ih reply (first.2 reply)⟩
  | host token call next ih => exact ⟨first.1, fun reply => ih reply (first.2 reply)⟩
  | notify n next => exact first.elim
  | overrun => trivial

theorem Asks.mono {P' : StoreCall → Prop} {Q' : HostCall → Prop}
    (more : ∀ call, P call → P' call) (more' : ∀ call, Q call → Q' call) {p : Program α}
    (h : p.Asks P Q) : p.Asks P' Q' := by
  induction p with
  | done a => trivial
  | store call next ih => exact ⟨more _ h.1, fun reply => ih reply (h.2 reply)⟩
  | host token call next ih => exact ⟨more' _ h.1, fun reply => ih reply (h.2 reply)⟩
  | notify n next => exact h.elim
  | overrun => trivial

end Program

/-! ### Operations -/

namespace Operation

variable {α β : Type} {P : StoreCall → Prop} {Q : HostCall → Prop}

/-- All **calls** to the store and to the code host are of the given kinds, whatever the answers
are. -/
def Calls (P : StoreCall → Prop) (Q : HostCall → Prop) (op : Operation α) : Prop :=
  Program.Calls P Q op.run

theorem calls_pure (a : α) : Calls P Q (pure a) := trivial

theorem calls_fail (e : OperationError) : Calls P Q (fail e : Operation α) := trivial

theorem calls_bind {op : Operation α} {f : α → Operation β} (first : Calls P Q op)
    (second : ∀ a, Calls P Q (f a)) : Calls P Q (op >>= f) :=
  Program.Calls.bind first fun
    | .ok a => second a
    | .error _ => trivial

theorem calls_lift {p : Program α} (h : p.Calls P Q) : Calls P Q (ExceptT.lift p) :=
  Program.Calls.bind h fun _ => trivial

theorem calls_tryStore {call : StoreCall} (h : P call) : Calls P Q (tryStore call) :=
  calls_lift ⟨h, fun _ => trivial⟩

theorem calls_store {call : StoreCall} (h : P call) : Calls P Q (store call) :=
  calls_bind (calls_tryStore h) fun
    | .ok _ => calls_pure _
    | .error _ => calls_fail _

theorem calls_notify (n : Notification) : Calls P Q (notify n) :=
  calls_lift (p := .notify n (.done ())) trivial

theorem calls_attempt {op : Operation α} (h : Calls P Q op) : Calls P Q (attempt op) :=
  calls_lift h

theorem calls_stage {name : String} {op : Operation α} (h : Calls P Q op) :
    Calls P Q (stage name op) :=
  Program.Calls.bind h fun
    | .ok _ => trivial
    | .error _ => trivial

theorem calls_mapM_mem {f : α → Operation β} {l : List α} (h : ∀ a ∈ l, Calls P Q (f a)) :
    Calls P Q (l.mapM f) := by
  induction l with
  | nil => exact calls_pure _
  | cons a l ih =>
      obtain ⟨first, rest⟩ := List.forall_mem_cons.mp h
      rw [List.mapM_cons]
      exact calls_bind first fun _ => calls_bind (ih rest) fun _ => calls_pure _

theorem calls_mapM {f : α → Operation β} (h : ∀ a, Calls P Q (f a)) (l : List α) :
    Calls P Q (l.mapM f) :=
  calls_mapM_mem fun a _ => h a

/-- An operation that only looks things up leaves the store alone. -/
theorem Ends.store_eq {op : Operation α} {s s' : Store} {tr : Trace}
    {res : Except OperationError α} (h : Ends op s tr res s')
    (calls : Calls StoreCall.IsLookup Q op) : s' = s :=
  Program.Ends.store_eq h calls

/-- A property of the store that every call of a kind keeps is kept by the operation. -/
theorem Ends.keeps {I : Store → Prop}
    (step : ∀ call, P call → ∀ now s, I s → I (call.run now s).2) {op : Operation α}
    {s s' : Store} {tr : Trace} {res : Except OperationError α} (h : Ends op s tr res s')
    (calls : Calls P Q op) (holds : I s) : I s' :=
  Program.Ends.keeps step h calls holds

/-- All calls are of the given kinds, and **no notification** is handed over, whatever the answers
are. -/
def Asks (P : StoreCall → Prop) (Q : HostCall → Prop) (op : Operation α) : Prop :=
  Program.Asks P Q op.run

theorem Asks.calls {op : Operation α} (h : Asks P Q op) : Calls P Q op := Program.Asks.calls h

theorem asks_pure (a : α) : Asks P Q (pure a) := trivial

theorem asks_fail (e : OperationError) : Asks P Q (fail e : Operation α) := trivial

theorem asks_bind {op : Operation α} {f : α → Operation β} (first : Asks P Q op)
    (second : ∀ a, Asks P Q (f a)) : Asks P Q (op >>= f) :=
  Program.Asks.bind first fun
    | .ok a => second a
    | .error _ => trivial

theorem asks_lift {p : Program α} (h : p.Asks P Q) : Asks P Q (ExceptT.lift p) :=
  Program.Asks.bind h fun _ => trivial

theorem asks_tryStore {call : StoreCall} (h : P call) : Asks P Q (tryStore call) :=
  asks_lift ⟨h, fun _ => trivial⟩

theorem asks_store {call : StoreCall} (h : P call) : Asks P Q (store call) :=
  asks_bind (asks_tryStore h) fun
    | .ok _ => asks_pure _
    | .error _ => asks_fail _

theorem asks_tryHost {token : String} {call : HostCall} (h : Q call) :
    Asks P Q (tryHost token call) :=
  asks_lift ⟨h, fun _ => trivial⟩

theorem asks_host {token : String} {call : HostCall} (h : Q call) : Asks P Q (host token call) :=
  asks_bind (asks_tryHost h) fun
    | .ok _ => asks_pure _
    | .error _ => asks_fail _

theorem asks_stage {name : String} {op : Operation α} (h : Asks P Q op) :
    Asks P Q (stage name op) :=
  Program.Asks.bind h fun
    | .ok _ => trivial
    | .error _ => trivial

theorem asks_ofDomain (r : Except DomainError α) : Asks P Q (ofDomain r) := by
  cases r <;> trivial

theorem asks_ofConfig (r : Except ConfigError α) : Asks P Q (ofConfig r) := by
  cases r <;> trivial

theorem asks_ifFound {call : StoreCall} (h : P call) : Asks P Q (Resolution.ifFound call) :=
  asks_bind (asks_tryStore h) fun
    | .ok _ => asks_pure _
    | .error e => by
        dsimp only
        split
        · exact asks_pure _
        · exact asks_fail _

end Operation

/-! ### Properties of operations -/

namespace Operation

/-- A property of operations is **compositional** if lookups have it, and so does everything that
is put together from what has it. -/
structure Compositional (K : (α : Type) → Operation α → Prop) : Prop where
  pure : ∀ {α : Type} (a : α), K α (pure a)
  fail : ∀ {α : Type} (e : OperationError), K α (fail e)
  bind : ∀ {α β : Type} {op : Operation α} {f : α → Operation β}, K α op → (∀ a, K β (f a)) →
    K β (op >>= f)
  attempt : ∀ {α : Type} {op : Operation α}, K α op → K (Except OperationError α) (attempt op)
  lookup : ∀ {call : StoreCall}, call.IsLookup → K call.Reply (store call)

theorem compositional_addsNoWork {Q : HostCall → Prop} :
    Compositional fun _ => Calls StoreCall.AddsNoWork Q where
  pure := calls_pure
  fail := calls_fail
  bind := calls_bind
  attempt := calls_attempt
  lookup one := calls_store one.addsNoWork

namespace Compositional

open Cancellation

variable {K : (α : Type) → Operation α → Prop} (h : Compositional K)
  (task : ∀ id, K (List Run) (Cancellation.task id))

include h task

/-- What canceling one task has, canceling the task of a **run** has. -/
theorem cancelRun (id : Id) : K (List Run) (run id) :=
  h.bind (h.lookup trivial) fun _ => task _

/-- So has canceling **many tasks**, for whatever they are canceled. -/
theorem cancelTasks (l : List Task) : K Nat (tasks l) := by
  induction l with
  | nil => exact h.pure 0
  | cons t rest ih =>
      refine h.bind (h.attempt (task t.id)) fun outcome => ?_
      cases outcome with
      | ok _ => exact h.bind ih fun _ => h.pure _
      | error e =>
          dsimp only
          split
          · exact ih
          · exact h.fail e

theorem cancelRef (repository : Id) (name defaultBranch : String) :
    K Nat (ref repository name defaultBranch) := by
  rw [ref]
  split
  · exact h.pure 0
  · exact h.bind (h.lookup trivial) fun l => h.cancelTasks task l

theorem cancelOwnedTasks (l : List Task) : K Nat (ownedTasks l) := by
  induction l with
  | nil => exact h.pure 0
  | cons t rest ih =>
      refine h.bind (h.lookup trivial) fun target => ?_
      split
      · exact ih
      · refine h.bind (h.attempt (task t.id)) fun outcome => ?_
        cases outcome with
        | ok _ => exact h.bind ih fun _ => h.pure _
        | error e =>
            dsimp only
            split
            · exact ih
            · exact h.fail e

theorem cancelPullRequest (repository : String) (number : Int64) :
    K Nat (pullRequest repository number) :=
  h.bind (h.lookup trivial) fun l => h.cancelOwnedTasks task l

theorem cancelWhateverPossible (l : List Task) : K Nat (whateverPossible l) := by
  induction l with
  | nil => exact h.pure 0
  | cons t rest ih =>
      refine h.bind (h.attempt (task t.id)) fun outcome => ?_
      cases outcome with
      | ok _ => exact h.bind ih fun _ => h.pure _
      | error _ => exact ih

theorem cancelSubmission (id : Id) : K Nat (submission id) :=
  h.bind (h.lookup trivial) fun _ =>
    h.bind (h.lookup trivial) fun _ => h.cancelWhateverPossible task _

omit task

/-- What recording one status has, failing **many runs** has. -/
theorem failRuns
    (setStatus : ∀ run success message, K Run (Worker.setStatus run success message))
    (message : String) (runs : List Run) : K Unit (Intake.failRuns message runs) := by
  induction runs with
  | nil => exact h.pure ()
  | cons run rest ih => exact h.bind (h.attempt (setStatus _ _ _)) fun _ => ih

end Compositional

end Operation

/-! ### Operations that add no work -/

open Operation StoreCall

variable {Q : HostCall → Prop}

namespace Worker

theorem calls_next (queue worker : String) : Calls AddsNoWork Q (next queue worker) := by
  rw [next]
  split
  case' isTrue => refine calls_bind (calls_fail _) fun _ => ?_
  all_goals
    refine calls_bind (calls_store trivial) fun item => ?_
    refine calls_bind (calls_stage (calls_store trivial)) fun target => ?_
    cases target.owner with
    | none => exact calls_bind (calls_tryStore trivial) fun _ => calls_fail _
    | some owner => exact calls_bind (calls_notify _) fun _ => calls_pure _

theorem calls_setStatus (run : Id) (success : Bool) (message : String) :
    Calls AddsNoWork Q (setStatus run success message) := by
  refine calls_bind (calls_store trivial) fun completion => ?_
  refine calls_bind (calls_tryStore trivial) fun target => ?_
  cases target with
  | error e => exact calls_pure _
  | ok target =>
      cases owner : target.owner with
      | none => simp only [owner]; exact calls_pure _
      | some owner' =>
          simp only [owner]
          exact calls_bind (calls_notify _) fun _ => calls_pure _

end Worker

namespace Cancellation

theorem calls_task (id : Id) : Calls AddsNoWork Q (task id) := by
  refine calls_bind (calls_store trivial) fun runs => ?_
  refine calls_bind (calls_tryStore trivial) fun target => ?_
  cases target with
  | error e => exact calls_pure _
  | ok target =>
      cases owner : target.owner with
      | none => simp only [owner]; exact calls_pure _
      | some owner' =>
          simp only [owner]
          refine calls_bind ?_ fun _ => calls_pure _
          induction runs with
          | nil => exact calls_pure _
          | cons run rest ih => exact calls_bind (calls_notify _) fun _ => ih

theorem calls_ref (repository : Id) (name defaultBranch : String) :
    Calls AddsNoWork Q (ref repository name defaultBranch) :=
  compositional_addsNoWork.cancelRef calls_task repository name defaultBranch

theorem calls_pullRequest (repository : String) (number : Int64) :
    Calls AddsNoWork Q (pullRequest repository number) :=
  compositional_addsNoWork.cancelPullRequest calls_task repository number

end Cancellation

end Dispatch
