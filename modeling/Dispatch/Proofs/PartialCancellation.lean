import Dispatch.Proofs.Cascade
import Dispatch.Proofs.Queue.Outcome

/-!
# Canceling what can be canceled

Canceling a submission does not stop at a task that the store fails to cancel. Whichever of the
unfinished tasks that happens to, and whatever the errors are, the others are canceled and counted,
and those tasks stay as they are with their runs and queue items.

Which calls to the store fail is laid down beforehand. A program among such failures is a program in
its own right, so what it ensures is read off its parts as for any other.

## Main definitions

* `Program.failing`, `Operation.failing`: a program of which some calls to the store fail.
* `Trace.FailsAs`: exactly those calls to the store have failed that are to fail.

## Main results

* `Program.Ends.failing`, `Program.Ends.of_failing`: its executions are those of the program in
  which exactly these calls fail.
* `Cancellation.whateverPossible_failing`: the tasks that can be canceled are.
* `Store.cancels_possible`: canceling a submission cancels and counts exactly those.
-/

namespace Dispatch

/-! ### Programs among failures -/

/-- Exactly those calls to the store have failed before they took effect that **are to fail**, each
with its error. -/
def Trace.FailsAs (fails : StoreCall → Option StoreError) (tr : Trace) : Prop :=
  ∀ event ∈ tr, match event with
    | .store call _ => fails call = none
    | .fault call e => fails call = some e
    | _ => True

namespace Program

variable {α β : Type} {fails : StoreCall → Option StoreError}

/-- The program of which some calls to the store **fail** before they take effect. -/
def failing (fails : StoreCall → Option StoreError) : Program α → Program α
  | done a => done a
  | store call next =>
    match fails call with
    | some e => (next (.error e)).failing fails
    | none => store call fun reply => (next reply).failing fails
  | host token call next => host token call fun reply => (next reply).failing fails
  | notify n next => notify n (next.failing fails)
  | overrun => overrun

theorem failing_store_of_some {call : StoreCall} {e : StoreError} (h : fails call = some e)
    (next : Except StoreError call.Reply → Program α) :
    (store call next).failing fails = (next (.error e)).failing fails := by
  rw [failing, h]

theorem failing_store_of_none {call : StoreCall} (h : fails call = none)
    (next : Except StoreError call.Reply → Program α) :
    (store call next).failing fails = store call fun reply => (next reply).failing fails := by
  rw [failing, h]

theorem failing_bind (p : Program α) (f : α → Program β) :
    (p.bind f).failing fails = (p.failing fails).bind fun a => (f a).failing fails := by
  induction p with
  | done a => rfl
  | store call next ih =>
      cases h : fails call with
      | some e => rw [bind, failing_store_of_some h, failing_store_of_some h, ih]
      | none =>
          rw [bind, failing_store_of_none h, failing_store_of_none h, bind]
          simp only [ih]
  | host token call next ih => simp only [bind, failing, ih]
  | notify n next ih => simp only [bind, failing, ih]
  | overrun => rfl

variable {p : Program α} {s s' : Store} {tr : Trace} {a : α}

/-- An execution in which exactly these calls fail is one of **the program among failures**. -/
theorem Ends.failing (h : p.Ends s tr a s') (as : tr.FailsAs fails) :
    ∃ tr', (p.failing fails).Ends s tr' a s' ∧ tr'.Faultless := by
  induction h with
  | done => exact ⟨[], .done _ _, by simp⟩
  | store now _ ih =>
      obtain ⟨first, later⟩ := List.forall_mem_cons.mp as
      obtain ⟨tr', ends, faultless⟩ := ih later
      rw [failing_store_of_none first]
      exact ⟨_, .store now ends, by simpa using faultless⟩
  | fault e _ ih =>
      obtain ⟨first, later⟩ := List.forall_mem_cons.mp as
      obtain ⟨tr', ends, faultless⟩ := ih later
      rw [failing_store_of_some first]
      exact ⟨tr', ends, faultless⟩
  | host reply _ ih =>
      obtain ⟨tr', ends, faultless⟩ := ih (List.forall_mem_cons.mp as).2
      exact ⟨_, .host reply ends, by simpa using faultless⟩
  | notify _ ih =>
      obtain ⟨tr', ends, faultless⟩ := ih (List.forall_mem_cons.mp as).2
      exact ⟨_, .notify ends, by simpa using faultless⟩

/-- And the other way round. -/
theorem Ends.of_failing (h : (p.failing fails).Ends s tr a s') (faultless : tr.Faultless) :
    ∃ tr', p.Ends s tr' a s' ∧ tr'.FailsAs fails := by
  induction p generalizing s tr with
  | done b =>
      obtain ⟨rfl, rfl, rfl⟩ := ends_done.mp h
      exact ⟨[], .done _ _, by simp [Trace.FailsAs]⟩
  | store call next ih =>
      cases foreseen : fails call with
      | some e =>
          rw [failing_store_of_some foreseen] at h
          obtain ⟨tr', ends, as⟩ := ih _ h faultless
          exact ⟨_, .fault e ends, List.forall_mem_cons.mpr ⟨foreseen, as⟩⟩
      | none =>
          rw [failing_store_of_none foreseen] at h
          rcases ends_store.mp h with ⟨now, rest, rfl, later⟩ | ⟨e, rest, rfl, -⟩
          · obtain ⟨tr', ends, as⟩ := ih _ later (by simpa using faultless)
            exact ⟨_, .store now ends, List.forall_mem_cons.mpr ⟨foreseen, as⟩⟩
          · exact absurd faultless Trace.not_faultless_fault
  | host token call next ih =>
      obtain ⟨reply, rest, rfl, later⟩ := ends_host.mp h
      obtain ⟨tr', ends, as⟩ := ih reply later (by simpa using faultless)
      exact ⟨_, .host reply ends, List.forall_mem_cons.mpr ⟨trivial, as⟩⟩
  | notify n next ih =>
      obtain ⟨rest, rfl, later⟩ := ends_notify.mp h
      obtain ⟨tr', ends, as⟩ := ih later (by simpa using faultless)
      exact ⟨_, .notify ends, List.forall_mem_cons.mpr ⟨trivial, as⟩⟩
  | overrun => exact absurd h not_ends_overrun

end Program

namespace Operation

variable {α β : Type} {fails : StoreCall → Option StoreError} {s : Store}

/-- The operation of which some calls to the store **fail** before they take effect. -/
def failing (fails : StoreCall → Option StoreError) (op : Operation α) : Operation α :=
  ExceptT.mk (Program.failing fails op.run)

theorem failing_bind (op : Operation α) (f : α → Operation β) :
    (op >>= f).failing fails = op.failing fails >>= fun a => (f a).failing fails := by
  refine (Program.failing_bind op.run (ExceptT.bindCont f)).trans
    (congrArg (Program.bind _) (funext fun res => ?_))
  cases res <;> rfl

theorem failing_attempt (op : Operation α) :
    (attempt op).failing fails = attempt (op.failing fails) :=
  Program.failing_bind op.run _

theorem failing_store_of_some {call : StoreCall} {e : StoreError} (h : fails call = some e) :
    (store call).failing fails = fail (e : OperationError) := by
  have failed := Program.failing_store_of_some h (α := Except OperationError call.Reply)
  exact failed _

theorem failing_store_of_none {call : StoreCall} (h : fails call = none) :
    (store call).failing fails = store call := by
  have called := Program.failing_store_of_none h (α := Except OperationError call.Reply)
  refine (called _).trans (congrArg (Program.store call) (funext fun reply => ?_))
  cases reply <;> rfl

/-- A call either **fails** or takes effect. -/
theorem ensures_failing_tryStore (call : StoreCall)
    {post : Except OperationError (Except StoreError call.Reply) → Store → Prop} :
    ((tryStore call).failing fails).Ensures post s ↔ match fails call with
      | some e => post (.ok (.error e)) s
      | none => ∀ now, post (.ok (call.run now s).1) (call.run now s).2 := by
  have unfolded : Operation.failing fails (tryStore call) =
      ExceptT.lift ((Program.store call .done).failing fails) := Program.failing_bind _ _
  rw [unfolded]
  cases h : fails call with
  | some e =>
      rw [Program.failing_store_of_some h]
      exact Iff.rfl
  | none =>
      rw [Program.failing_store_of_none h]
      exact Iff.rfl

/-- Notices are given **among failures** as without them. -/
theorem failing_notices (notice : Run → Notification) (runs : List Run) :
    Operation.failing fails (runs.forM fun run => notify (notice run)) =
      runs.forM fun run => notify (notice run) := by
  induction runs with
  | nil => rfl
  | cons run rest ih => exact congrArg (notify (notice run) >>= fun _ => ·) ih

end Operation

/-! ### Canceling among failures -/

namespace Cancellation

open Operation

variable {fails : StoreCall → Option StoreError} {s : Store}

/-- What canceling a task comes to **is still up to the call that cancels it**, whether or not its
target is found after that. -/
theorem task_failing {id : Id} {post : Except OperationError (List Run) → Store → Prop}
    (h : ((store (.cancelTask id)).failing fails).Ensures post s) :
    ((task id).failing fails).Ensures post s := by
  rw [task, failing_bind, ensures_bind]
  refine h.mono fun res s' met => ?_
  cases res with
  | error e => exact met
  | ok runs =>
      dsimp only
      rw [failing_bind, ensures_bind, ensures_failing_tryStore]
      cases fails (.getTarget id) with
      | some e => exact met
      | none =>
          intro now
          rw [StoreCall.run, StoreM.look_run]
          cases s'.target id with
          | error e => exact met
          | ok target =>
              dsimp only
              cases target.owner with
              | none => exact met
              | some owner =>
                  dsimp only
                  rw [failing_bind, ensures_bind, failing_notices, ensures_notices]
                  exact met

/-- Unfinished tasks are canceled, **whatever of them can be**: those for which the store does not
fail. -/
theorem whateverPossible_failing {l : List Task} (whole : s.Integrity) (waiting : s.Unfinished l) :
    ((whateverPossible l).failing fails).Ensures
      (Counts s ((l.filter fun t => (fails (.cancelTask t.id)).isNone).map (·.id))) s := by
  induction l generalizing s with
  | nil => exact ⟨rfl, .nil s⟩
  | cons t rest ih =>
      have known := waiting.known t List.mem_cons_self
      have unfinished := waiting.unfinished t List.mem_cons_self
      rw [whateverPossible, failing_bind, failing_attempt]
      cases fate : fails (.cancelTask t.id) with
      | some e =>
          -- The error is swallowed before anything has changed, and the rest goes on from here.
          rw [List.filter_cons_of_neg (by simp [fate]), ensures_bind, ensures_attempt]
          refine task_failing ?_
          rw [failing_store_of_some fate]
          exact ih whole waiting.tail
      | none =>
          rw [List.filter_cons_of_pos (by simp [fate]), List.map_cons]
          have canceled := ensures_task.mp (task_ensures whole known unfinished)
          rw [← failing_store_of_none fate] at canceled
          have fresh : t.id ∉ (rest.filter fun t => (fails (.cancelTask t.id)).isNone).map (·.id) :=
            fun mem => waiting.fresh ((List.filter_sublist.map _).subset mem)
          refine attempt_ensures waiting fresh (task_failing canceled) (fun _ => failing_bind _ _)
            fun now => ?_
          exact ih (whole.step (.cancel now t known unfinished)) (waiting.canceling now)

end Cancellation

namespace Store

open Cancellation Operation

/-- **Canceling a submission is best-effort** in every store, whatever calls have led to it: if the
submission and its tasks can be read, exactly those of its unfinished tasks are canceled and counted
for which the store does not fail, and nothing else happens. -/
theorem cancels_possible (calls : List DueCall) {x : StoredSubmission}
    (known : x ∈ (empty.after calls).submissions) (fails : StoreCall → Option StoreError)
    (found : fails (.getSubmission x.id) = none) (listed : fails (.listTasks x.id) = none) :
    ((Cancellation.submission x.id).failing fails).Ensures ((empty.after calls).CancelsAll fun t =>
      t.isFinished = false ∧ t.submission = x.id ∧ fails (.cancelTask t.id) = none)
      (empty.after calls) := by
  have whole := integrity_empty.after calls
  obtain ⟨_, _, -, shown⟩ := whole.submission_shown known
  have waiting := whole.unfinishedTasksOf x.id
  rw [Cancellation.submission, failing_bind, failing_store_of_none found]
  refine ensures_bind.mpr ((ensures_store (.getSubmission x.id)).mpr fun now => ?_)
  rw [StoreCall.run, StoreM.look_run, shown]
  dsimp only
  rw [failing_bind, failing_store_of_none listed]
  refine ensures_bind.mpr ((ensures_store (.listTasks x.id)).mpr fun now => ?_)
  refine (whateverPossible_failing whole waiting).mono fun res s' done => ?_
  refine done.cancelsAll (waiting.filter _).distinct fun t => ?_
  rw [List.mem_filter, mem_unfinishedTasksOf, Option.isNone_iff_eq_none, and_assoc, and_assoc]

end Store

namespace Sample

/-- Calls that leave a submission with two tasks, neither of which has finished. -/
def twoTasks : List DueCall :=
  waiting none ++ [⟨.startOfYear 0, .createTask
    ⟨.issued .submission 1, .issued .repository 1, "lib", taskSettings, none⟩⟩]

/-- Of the two the first cannot be canceled. -/
def firstFails : StoreCall → Option StoreError
  | .cancelTask id => if id = .issued .task 1 then some .missingRow else none
  | _ => none

end Sample

namespace Store

open Cancellation Operation

/-- Of two tasks that have not finished, the first cannot be canceled; the second is. -/
theorem cancels_possible_sample : ∃ x ∈ (empty.after Sample.twoTasks).submissions,
    ((empty.after Sample.twoTasks).tasks.filter fun t =>
        t.isFinished = false ∧ t.submission = x.id).map (·.id) =
          [.issued .task 1, .issued .task 2] ∧
      ((Cancellation.submission x.id).failing Sample.firstFails).Ensures
        ((empty.after Sample.twoTasks).CancelsAll fun t => t.isFinished = false ∧
          t.submission = x.id ∧ Sample.firstFails (.cancelTask t.id) = none)
        (empty.after Sample.twoTasks) := by
  have all : ∃ x ∈ (empty.after Sample.twoTasks).submissions,
      ((empty.after Sample.twoTasks).tasks.filter fun t =>
        t.isFinished = false ∧ t.submission = x.id).map (·.id) =
          [.issued .task 1, .issued .task 2] := by decide +kernel
  obtain ⟨x, known, two⟩ := all
  exact ⟨x, known, two, cancels_possible Sample.twoTasks known Sample.firstFails rfl rfl⟩

end Store

end Dispatch
