import Dispatch.Proofs.Conduct
import Dispatch.Proofs.Finality
import Dispatch.Proofs.Reporting.Trail

/-!
# Interruptions

When a call to the store fails before it takes effect, most operations give up on the spot: nothing
follows, and what was done until then remains. A trace tells which runs had been created by then,
and what was handed over.

## Main definitions

* `Trace.notices`: what was handed over.
* `Trace.createdRuns`: the runs that were created.
* `Operation.GivesUp`: a call to the store that does not succeed ends the operation.

## Main results

* `Operation.Ends.givesUp`: only the last event of such an operation is a failure of the store.
* `Program.Ends.runs_map_id`: the runs that are there afterwards are those that were there, and
  those that were created.
* `Operation.Ends.handed`: what is handed over is of the kind that the operation hands over.
-/

namespace Dispatch

/-! ### What a trace tells -/

namespace Event

/-- The run that an event **creates**. -/
def createdRun? : Event → Option Run
  | store (.createRun _) (.ok run) => some run
  | _ => none

end Event

namespace Trace

/-- The notifications that were **handed over**, the oldest first. -/
def notices (tr : Trace) : List Notification := tr.filterMap Event.notice?

/-- The runs that were **created**, the oldest first. -/
def createdRuns (tr : Trace) : List Run := tr.filterMap Event.createdRun?

variable {tr tr' : Trace}

@[simp] theorem notices_append : (tr ++ tr').notices = tr.notices ++ tr'.notices :=
  List.filterMap_append

@[simp] theorem createdRuns_append :
    (tr ++ tr').createdRuns = tr.createdRuns ++ tr'.createdRuns :=
  List.filterMap_append

@[simp] theorem createdRuns_fault {call : StoreCall} {e : StoreError} :
    createdRuns (.fault call e :: tr) = tr.createdRuns := rfl

theorem faultless_iff_faults : tr.Faultless ↔ tr.faults = [] := by
  rw [faults, List.filterMap_eq_nil_iff]
  constructor
  · intro faultless ev mem
    cases ev with
    | fault call e => exact absurd mem (faultless call e)
    | _ => rfl
  · intro none call e mem
    cases none _ mem

end Trace

/-! ### Notifications and failures -/

/-- What a program **hands over** is of the kind that it hands over. -/
theorem Program.Ends.handed {α : Type} {P : StoreCall → Prop} {Q : String → HostCall → Prop}
    {N : Notification → Prop} {p : Program α} {s s' : Store} {tr : Trace} {a : α}
    (h : p.Ends s tr a s') (makes : p.Makes P Q N) : ∀ n ∈ tr.notices, N n := by
  induction h with
  | done => simp [Trace.notices]
  | store now _ ih => exact ih (makes.2 _)
  | fault e _ ih => exact ih (makes.2 _)
  | host reply _ ih => exact ih (makes.2 reply)
  | notify _ ih => exact List.forall_mem_cons.mpr ⟨makes.1, ih makes.2⟩

/-- The calls that **fail** are of the kind that the program makes. -/
theorem Program.Ends.faulted {α : Type} {P : StoreCall → Prop} {Q : String → HostCall → Prop}
    {N : Notification → Prop} {p : Program α} {s s' : Store} {tr : Trace} {a : α}
    (h : p.Ends s tr a s') (makes : p.Makes P Q N) : ∀ call ∈ tr.faults, P call := by
  induction h with
  | done => simp [Trace.faults]
  | store now _ ih => exact ih (makes.2 _)
  | fault e _ ih => exact List.forall_mem_cons.mpr ⟨makes.1, ih (makes.2 _)⟩
  | host reply _ ih => exact ih (makes.2 reply)
  | notify _ ih => exact ih makes.2

theorem Operation.Ends.handed {α : Type} {P : StoreCall → Prop} {Q : String → HostCall → Prop}
    {N : Notification → Prop} {op : Operation α} {s s' : Store} {tr : Trace}
    {res : Except OperationError α} (h : op.Ends s tr res s') (makes : op.Makes P Q N) :
    ∀ n ∈ tr.notices, N n :=
  Program.Ends.handed h makes

/-! ### Giving up -/

namespace Program

variable {α β : Type}

/-- A call to the store that does not succeed **ends the program** with an error. -/
def GivesUp : Program (Except OperationError α) → Prop
  | done _ => True
  | store _ next => (∀ e, ∃ e', next (.error e) = .done (.error e')) ∧
    ∀ reply, (next reply).GivesUp
  | host _ _ next => ∀ reply, (next reply).GivesUp
  | notify _ next => next.GivesUp
  | overrun => True

/-- So it does if what follows **passes errors on**. -/
theorem GivesUp.bind {p : Program (Except OperationError α)}
    {f : Except OperationError α → Program (Except OperationError β)} (first : p.GivesUp)
    (skips : ∀ e, ∃ e', f (.error e) = .done (.error e')) (goesOn : ∀ a, (f (.ok a)).GivesUp) :
    (p.bind f).GivesUp := by
  induction p with
  | done r =>
      cases r with
      | ok a => exact goesOn a
      | error e =>
          obtain ⟨e', skipped⟩ := skips e
          rw [Program.bind, skipped]
          trivial
  | store call next ih =>
      refine ⟨fun e => ?_, fun reply => ih reply (first.2 reply)⟩
      obtain ⟨e', ended⟩ := first.1 e
      obtain ⟨e'', skipped⟩ := skips e'
      exact ⟨e'', (congrArg (·.bind f) ended).trans skipped⟩
  | host token call next ih => exact fun reply => ih reply (first reply)
  | notify n next ih => exact ih first
  | overrun => trivial

/-- A program that does not call the store has nothing to give up for. -/
theorem Makes.givesUp {Q : String → HostCall → Prop} {N : Notification → Prop}
    {p : Program (Except OperationError α)} (h : p.Makes (fun _ => False) Q N) : p.GivesUp := by
  induction p with
  | done r => trivial
  | store call next => exact h.1.elim
  | host token call next ih => exact fun reply => ih reply (h.2 reply)
  | notify n next ih => exact ih h.2
  | overrun => trivial

/-- A program that gives up meets with **at most one** failure of the store, and it comes last. -/
theorem Ends.givesUp {p : Program (Except OperationError α)} {s s' : Store} {tr : Trace}
    {res : Except OperationError α} (h : p.Ends s tr res s') (gives : p.GivesUp) :
    tr.Faultless ∨ ∃ before call e, tr = before ++ [.fault call e] := by
  induction h with
  | done => exact .inl Trace.faultless_nil
  | store now _ ih =>
      refine (ih (gives.2 _)).imp (by simp) ?_
      rintro ⟨before, call, e, rfl⟩
      exact ⟨_ :: before, call, e, rfl⟩
  | fault e later =>
      obtain ⟨e', ended⟩ := gives.1 e
      rw [ended] at later
      cases later
      exact .inr ⟨[], _, e, rfl⟩
  | host reply _ ih =>
      refine (ih (gives reply)).imp (by simp) ?_
      rintro ⟨before, call, e, rfl⟩
      exact ⟨_ :: before, call, e, rfl⟩
  | notify _ ih =>
      refine (ih gives).imp (by simp) ?_
      rintro ⟨before, call, e, rfl⟩
      exact ⟨_ :: before, call, e, rfl⟩

end Program

namespace Operation

variable {α β : Type}

/-- A call to the store that does not succeed **ends the operation** with an error. -/
def GivesUp (op : Operation α) : Prop := Program.GivesUp op.run

theorem givesUp_pure (a : α) : (pure a : Operation α).GivesUp := trivial

theorem givesUp_fail (e : OperationError) : (fail e : Operation α).GivesUp := trivial

theorem givesUp_bind {op : Operation α} {f : α → Operation β} (first : op.GivesUp)
    (second : ∀ a, (f a).GivesUp) : (op >>= f).GivesUp :=
  Program.GivesUp.bind first (fun e => ⟨e, rfl⟩) second

theorem givesUp_stage {name : String} {op : Operation α} (h : op.GivesUp) :
    (stage name op).GivesUp :=
  Program.GivesUp.bind h (fun e => ⟨e.inStage name, rfl⟩) fun _ => trivial

theorem givesUp_store (call : StoreCall) : (store call).GivesUp :=
  ⟨fun e => ⟨e, rfl⟩, fun
    | .ok _ => trivial
    | .error _ => trivial⟩

theorem givesUp_mapM {f : α → Operation β} (h : ∀ a, (f a).GivesUp) (l : List α) :
    (l.mapM f).GivesUp := by
  induction l with
  | nil => exact givesUp_pure _
  | cons a l ih =>
      rw [List.mapM_cons]
      exact givesUp_bind (h a) fun _ => givesUp_bind ih fun _ => givesUp_pure _

/-- An operation that does not call the store has nothing to give up for. -/
theorem Makes.givesUp {Q : String → HostCall → Prop} {N : Notification → Prop}
    {op : Operation α} (h : Makes (fun _ => False) Q N op) : op.GivesUp :=
  Program.Makes.givesUp h

theorem Ends.givesUp {op : Operation α} {s s' : Store} {tr : Trace}
    {res : Except OperationError α} (h : op.Ends s tr res s') (gives : op.GivesUp) :
    tr.Faultless ∨ ∃ before call e, tr = before ++ [.fault call e] :=
  Program.Ends.givesUp h gives

end Operation

/-! ### Created runs -/

/-- A call that adds no work creates **no run**. -/
theorem StoreCall.AddsNoWork.createdRuns {call : StoreCall} (h : call.AddsNoWork)
    (reply : Except StoreError call.Reply) : Trace.createdRuns [.store call reply] = [] := by
  cases call <;> first | exact h.elim | (cases reply <;> rfl)

/-- What a call **adds to the runs** is what it creates. -/
theorem StoreCall.run_runs_map_id {s : Store} (whole : s.Integrity) (call : StoreCall)
    (now : Timestamp) : (call.run now s).2.runs.map (·.id) =
      s.runs.map (·.id) ++ (Trace.createdRuns [.store call (call.run now s).1]).map (·.id) := by
  by_cases quiet : call.AddsNoWork
  · obtain ⟨-, run, -, same, -, runs⟩ := (call.run_step whole quiet now).sameWork
    rw [quiet.createdRuns, List.map_nil, List.append_nil, runs]
    exact Store.map_map_of_same (fun r => (same r).id) s.runs
  · cases call with
    | createRun new =>
        rcases Store.createRun_cases now new s with ⟨-, e, run⟩ | ⟨-, run⟩
        · rw [StoreCall.run, run]
          exact (List.append_nil _).symm
        · rw [StoreCall.run, run]
          exact List.map_append
    | createTask new =>
        rcases Store.createTask_cases now new s with ⟨-, e, run⟩ | ⟨-, run⟩
        · rw [StoreCall.run, run]
          exact (List.append_nil _).symm
        · rw [StoreCall.run, run]
          exact (List.append_nil _).symm
    | enqueue batch =>
        rcases Store.enqueue_cases batch s with ⟨-, e, run⟩ | ⟨-, _, run, -⟩
        · rw [StoreCall.run, run]
          exact (List.append_nil _).symm
        · rw [StoreCall.run, run]
          exact (List.append_nil _).symm
    | _ => exact absurd trivial quiet

namespace Program

variable {α : Type} {p : Program α} {s s' : Store} {tr : Trace} {a : α}

/-- The runs that are there afterwards are those that were there and those that were **created**. -/
theorem Ends.runs_map_id (h : p.Ends s tr a s') (whole : s.Integrity) :
    s'.runs.map (·.id) = s.runs.map (·.id) ++ tr.createdRuns.map (·.id) := by
  induction h with
  | done => exact (List.append_nil _).symm
  | @store call next s s' tr a now _ ih =>
      rw [ih (call.run_integrity whole now), call.run_runs_map_id whole now, List.append_assoc,
        ← List.map_append, ← Trace.createdRuns_append, List.singleton_append]
  | fault e _ ih => exact ih whole
  | host reply _ ih => exact ih whole
  | notify _ ih => exact ih whole

/-- Where no work is added, **no run** is created. -/
theorem Ends.createsNone {Q : HostCall → Prop} (h : p.Ends s tr a s')
    (calls : p.Calls StoreCall.AddsNoWork Q) : tr.createdRuns = [] := by
  induction h with
  | done => rfl
  | @store call next s s' tr a now _ ih =>
      rw [← List.singleton_append, Trace.createdRuns_append, calls.1.createdRuns, ih (calls.2 _)]
      rfl
  | fault e _ ih => exact ih (calls.2 _)
  | host reply _ ih => exact ih (calls.2 reply)
  | notify _ ih => exact ih calls

/-- Endings **stay** in the course of a program. -/
theorem Ends.continues (h : p.Ends s tr a s') (whole : s.Integrity) : s.Continues s' :=
  (h.keeps (P := fun _ => True) (I := fun s' => s'.Integrity ∧ s.Continues s')
    (fun call _ now _ holds => ⟨call.run_integrity holds.1 now,
      holds.2.trans (.move holds.1 (call.run_moves holds.1 now))⟩)
    (calls_any p) ⟨whole, .refl s⟩).2

end Program

end Dispatch
