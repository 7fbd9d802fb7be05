import Dispatch.Proofs.Store.Step

/-!
# The store in service

Callers in any number use the store at the same time, but each call takes effect at once and as a
whole. So what they see together is what one sequence of calls gives, in the order in which the
calls take effect, and a property of all such sequences holds however the callers interleave.

## Main definitions

* `Answered`: a call together with its answer.
* `Store.after`, `Store.answers`: the store after calls, and what it answered to them.
* `Program.EndsAmid`: a program ends while others call the store as well.

## Main results

* `Store.Integrity.after`: calls keep the integrity of the store.
* `Store.Integrity.after_within`: what each call does to the store, the calls do together.
-/

namespace Dispatch

/-- A call that the store has **answered**. -/
structure Answered where
  call : StoreCall
  reply : Except StoreError call.Reply

/-- A call that is **due** at a time. -/
structure DueCall where
  now : Timestamp
  call : StoreCall

namespace Store

/-- The store **after calls**, one after the other. -/
def after (s : Store) : List DueCall → Store
  | [] => s
  | due :: rest => (due.call.run due.now s).2.after rest

/-- What the store **answers to calls**, one after the other. -/
def answers (s : Store) : List DueCall → List Answered
  | [] => []
  | due :: rest =>
      ⟨due.call, (due.call.run due.now s).1⟩ :: (due.call.run due.now s).2.answers rest

variable {s : Store}

@[simp] theorem after_nil : s.after [] = s := rfl

@[simp] theorem answers_nil : s.answers [] = [] := rfl

@[simp] theorem after_cons (due : DueCall) (rest : List DueCall) :
    s.after (due :: rest) = (due.call.run due.now s).2.after rest := rfl

@[simp] theorem answers_cons (due : DueCall) (rest : List DueCall) :
    s.answers (due :: rest) = ⟨due.call, (due.call.run due.now s).1⟩ ::
      (due.call.run due.now s).2.answers rest := rfl

theorem after_append (first second : List DueCall) :
    s.after (first ++ second) = (s.after first).after second := by
  induction first generalizing s with
  | nil => rfl
  | cons due rest ih => exact ih

namespace Integrity

/-- **Calls keep the integrity** of the store. -/
theorem after (h : s.Integrity) (calls : List DueCall) : (s.after calls).Integrity := by
  induction calls generalizing s with
  | nil => exact h
  | cons due rest ih => exact ih (due.call.run_integrity h due.now)

/-- **What each call does, calls do together**: a relation that holds of every store with integrity
and the one that a call leaves is carried through all calls, if it can be chained. -/
theorem after_within {R : Store → Store → Prop} (refl : ∀ s, R s s)
    (trans : ∀ s₁ s₂ s₃, R s₁ s₂ → R s₂ s₃ → R s₁ s₃)
    (step : ∀ s : Store, s.Integrity → ∀ (call : StoreCall) (now : Timestamp),
      R s (call.run now s).2) (h : s.Integrity) (calls : List DueCall) : R s (s.after calls) := by
  induction calls generalizing s with
  | nil => exact refl s
  | cons due rest ih =>
      have first : R s (due.call.run due.now s).2 := step s h due.call due.now
      have later := ih (due.call.run_integrity h due.now)
      exact trans _ _ _ first later

/-- Each answer was given by a store with integrity. -/
theorem exists_of_mem_answers (h : s.Integrity) {calls : List DueCall} {answer : Answered}
    (mem : answer ∈ s.answers calls) : ∃ (s₁ : Store) (call : StoreCall) (now : Timestamp),
      s₁.Integrity ∧ answer = ⟨call, (call.run now s₁).1⟩ := by
  induction calls generalizing s with
  | nil => cases mem
  | cons due rest ih =>
      rcases List.mem_cons.mp mem with rfl | later
      · exact ⟨s, due.call, due.now, h, rfl⟩
      · exact ih (due.call.run_integrity h due.now) later

end Integrity

end Store

/-! ### Programs among others -/

namespace Program

variable {α : Type}

/-- A program **ends amid the calls of others**: between any two of its events the store may be
called by someone else. The trace lists the program's own events. -/
inductive EndsAmid : Program α → Store → Trace → α → Store → Prop
  | done (a : α) (s : Store) : EndsAmid (.done a) s [] a s
  | store {call : StoreCall} {next : Except StoreError call.Reply → Program α} {s s' : Store}
      {tr : Trace} {a : α} (now : Timestamp) :
      EndsAmid (next (call.run now s).1) (call.run now s).2 tr a s' →
      EndsAmid (.store call next) s (.store call (call.run now s).1 :: tr) a s'
  | fault {call : StoreCall} {next : Except StoreError call.Reply → Program α} {s s' : Store}
      {tr : Trace} {a : α} (e : StoreError) :
      EndsAmid (next (.error e)) s tr a s' →
      EndsAmid (.store call next) s (.fault call e :: tr) a s'
  | host {token : String} {call : HostCall} {next : Except HostError call.Reply → Program α}
      {s s' : Store} {tr : Trace} {a : α} (reply : Except HostError call.Reply) :
      EndsAmid (next reply) s tr a s' →
      EndsAmid (.host token call next) s (.host token call reply :: tr) a s'
  | notify {n : Notification} {next : Program α} {s s' : Store} {tr : Trace} {a : α} :
      EndsAmid next s tr a s' → EndsAmid (.notify n next) s (.notice n :: tr) a s'
  | meanwhile {p : Program α} {s s' : Store} {tr : Trace} {a : α} (due : DueCall) :
      EndsAmid p (due.call.run due.now s).2 tr a s' → EndsAmid p s tr a s'

/-- An execution without others is one amid no calls of theirs. -/
theorem Ends.amid {p : Program α} {s s' : Store} {tr : Trace} {a : α} (h : p.Ends s tr a s') :
    p.EndsAmid s tr a s' := by
  induction h with
  | done a s => exact .done a s
  | store now _ ih => exact .store now ih
  | fault e _ ih => exact .fault e ih
  | host reply _ ih => exact .host reply ih
  | notify _ ih => exact .notify ih

theorem endsAmid_done {a b : α} {s s' : Store} {tr : Trace}
    (h : (done a).EndsAmid s tr b s') : tr = [] ∧ b = a ∧ ∃ others, s' = s.after others := by
  generalize begun : done a = p at h
  induction h with
  | done c s =>
      cases begun
      exact ⟨rfl, rfl, [], rfl⟩
  | meanwhile due _ ih =>
      obtain ⟨silent, same, others, left⟩ := ih begun
      exact ⟨silent, same, due :: others, left⟩
  | _ => cases begun

/-- A call to the store takes effect after some calls of others, or it fails. -/
theorem endsAmid_store {call : StoreCall} {next : Except StoreError call.Reply → Program α}
    {s s' : Store} {tr : Trace} {a : α} (h : (store call next).EndsAmid s tr a s') :
    ∃ others, (∃ now rest, tr = .store call (call.run now (s.after others)).1 :: rest ∧
        (next (call.run now (s.after others)).1).EndsAmid (call.run now (s.after others)).2
          rest a s') ∨
      ∃ e rest, tr = .fault call e :: rest ∧
        (next (.error e)).EndsAmid (s.after others) rest a s' := by
  generalize begun : store call next = p at h
  induction h with
  | store now later ih =>
      cases begun
      exact ⟨[], .inl ⟨now, _, rfl, later⟩⟩
  | fault e later ih =>
      cases begun
      exact ⟨[], .inr ⟨e, _, rfl, later⟩⟩
  | meanwhile due _ ih =>
      obtain ⟨others, left⟩ := ih begun
      exact ⟨due :: others, left⟩
  | _ => cases begun

end Program

namespace Operation

variable {α : Type} {s s' : Store} {tr : Trace} {res : Except OperationError α}

/-- An operation **ends amid the calls of others**. -/
def EndsAmid (op : Operation α) (s : Store) (tr : Trace) (res : Except OperationError α)
    (s' : Store) : Prop :=
  Program.EndsAmid op.run s tr res s'

theorem Ends.amid {op : Operation α} (h : op.Ends s tr res s') : op.EndsAmid s tr res s' :=
  Program.Ends.amid h

/-- The course of an operation that begins with a call to the store. -/
theorem run_store_bind (call : StoreCall) (f : call.Reply → Operation α) :
    (store call >>= f).run = .store call fun
      | .ok a => (f a).run
      | .error e => .done (.error (e : OperationError)) := by
  refine congrArg (Program.store call) (funext fun reply => ?_)
  cases reply <;> rfl

/-- An operation that begins with a **call to the store** goes on with the answer to it, or it ends
with an error because the store refuses the call or fails. -/
theorem endsAmid_store_bind {call : StoreCall} {f : call.Reply → Operation α}
    (h : (store call >>= f).EndsAmid s tr res s') :
    ∃ others, (∃ now a rest, (call.run now (s.after others)).1 = .ok a ∧
        tr = .store call (.ok a) :: rest ∧
        (f a).EndsAmid (call.run now (s.after others)).2 rest res s') ∨
      (∃ e, res = .error e) ∧
        (tr.Faultless → ∃ now e, (call.run now (s.after others)).1 = .error e) := by
  rw [EndsAmid, run_store_bind] at h
  obtain ⟨others, ⟨now, rest, rfl, later⟩ | ⟨e, rest, rfl, later⟩⟩ := Program.endsAmid_store h
  · cases answer : (call.run now (s.after others)).1 with
    | ok a =>
        rw [answer] at later
        exact ⟨others, .inl ⟨now, a, rest, answer, rfl, later⟩⟩
    | error e =>
        rw [answer] at later
        obtain ⟨-, rfl, -⟩ := Program.endsAmid_done later
        exact ⟨others, .inr ⟨⟨_, rfl⟩, fun _ => ⟨now, e, answer⟩⟩⟩
  · obtain ⟨-, rfl, -⟩ := Program.endsAmid_done later
    exact ⟨others, .inr ⟨⟨_, rfl⟩, fun faultless => absurd faultless Trace.not_faultless_fault⟩⟩

end Operation

end Dispatch
