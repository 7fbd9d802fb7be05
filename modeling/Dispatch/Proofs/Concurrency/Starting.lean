import Dispatch.Proofs.History

/-!
# Work that is being started

A request creates tasks, then their runs, and puts the runs on the queue with one call at the end.
In between, the tasks and runs are there for everyone but belong to the request that starts them.
This module follows what a request has under way, call by call, and shows that every request
creates runs only for its own tasks and queues only its own runs.

## Main definitions

* `Underway`: the tasks and runs that a request is starting.
* `Program.StartsOwn`: a program creates runs only for tasks that it has under way and queues only
  runs that it has under way.

## Main results

* `Program.StartsOwn.bind`: the rule for sequences.
* `Intake.startsOwn_submit`, `Demand.startsOwn`: every demand starts only its own work.
-/

namespace Dispatch

/-- The tasks and runs that a request **has under way**: it has created them and not tried to put
them on the queue yet. -/
structure Underway where
  tasks : List Id
  runs : List Id

namespace Underway

/-- Nothing has been created yet. -/
def none : Underway := ⟨[], []⟩

/-- What is under way **after a call**. -/
def next (w : Underway) : (call : StoreCall) → Except StoreError call.Reply → Underway
  | .createTask _, .ok t => { w with tasks := t.id :: w.tasks }
  | .createRun _, .ok r => { w with runs := r.id :: w.runs }
  | .enqueue _, _ => none
  | _, _ => w

/-- Calls that create runs or queue them are about what is **under way**. -/
def Covers (w : Underway) : StoreCall → Prop
  | .createRun new => new.task ∈ w.tasks
  | .enqueue batch => ∀ x ∈ batch, x.run ∈ w.runs
  | _ => True

/-- More has been created. -/
structure Grows (w w' : Underway) : Prop where
  tasks : w.tasks ⊆ w'.tasks
  runs : w.runs ⊆ w'.runs

theorem Grows.refl (w : Underway) : w.Grows w := ⟨fun _ => id, fun _ => id⟩

theorem Grows.trans {w w' w'' : Underway} (first : w.Grows w') (second : w'.Grows w'') :
    w.Grows w'' :=
  ⟨fun _ mem => second.tasks (first.tasks mem), fun _ mem => second.runs (first.runs mem)⟩

/-- A call that adds no work changes nothing. -/
theorem next_quiet (w : Underway) {call : StoreCall} (quiet : call.AddsNoWork)
    (reply : Except StoreError call.Reply) : w.next call reply = w := by
  cases call <;> first | rfl | exact quiet.elim

theorem covers_quiet (w : Underway) {call : StoreCall} (quiet : call.AddsNoWork) :
    w.Covers call := by
  cases call <;> trivial

end Underway

/-! ### Programs -/

namespace Program

variable {α β : Type}

/-- A program, begun with something under way, creates runs only for **its own** tasks and queues
only its own runs, whatever the answers are; and where it ends, a condition holds. -/
def StartsOwn (Q : Underway → α → Prop) : Program α → Underway → Prop
  | done a, w => Q w a
  | store call next, w => w.Covers call ∧ ∀ reply, (next reply).StartsOwn Q (w.next call reply)
  | host _ _ next, w => ∀ reply, (next reply).StartsOwn Q w
  | notify _ next, w => next.StartsOwn Q w
  | overrun, _ => True

variable {Q : Underway → α → Prop} {w : Underway}

/-- **Sequences**: the second part begins with what the first one has under way. -/
theorem StartsOwn.bind {R : Underway → β → Prop} {p : Program α} {f : α → Program β}
    (first : p.StartsOwn Q w) (second : ∀ w a, Q w a → (f a).StartsOwn R w) :
    (p.bind f).StartsOwn R w := by
  induction p generalizing w with
  | done a => exact second w a first
  | store call next ih => exact ⟨first.1, fun reply => ih reply (first.2 reply)⟩
  | host token call next ih => exact fun reply => ih reply (first reply)
  | notify n next ih => exact ih first
  | overrun => trivial

theorem StartsOwn.mono {Q' : Underway → α → Prop} {p : Program α} (h : p.StartsOwn Q w)
    (weaker : ∀ w a, Q w a → Q' w a) : p.StartsOwn Q' w := by
  induction p generalizing w with
  | done a => exact weaker w a h
  | store call next ih => exact ⟨h.1, fun reply => ih reply (h.2 reply)⟩
  | host token call next ih => exact fun reply => ih reply (h reply)
  | notify n next ih => exact ih h
  | overrun => trivial

/-- A program that adds no work leaves what is under way. -/
theorem Calls.startsOwn {P : HostCall → Prop} {p : Program α}
    (h : p.Calls StoreCall.AddsNoWork P) (ends : ∀ a, Q w a) : p.StartsOwn Q w := by
  induction p with
  | done a => exact ends a
  | store call next ih =>
      refine ⟨w.covers_quiet h.1, fun reply => ?_⟩
      rw [w.next_quiet h.1]
      exact ih reply (h.2 reply)
  | host token call next ih => exact fun reply => ih reply (h.2 reply)
  | notify n next ih => exact ih h
  | overrun => trivial

end Program

/-! ### Operations -/

namespace Operation

variable {α β : Type} {w : Underway}

/-- An operation creates runs only for its **own tasks** and queues only its own runs, and what it
has under way at the end meets a condition with the value, if there is one. -/
def StartsOwn (Q : Underway → α → Prop) (op : Operation α) (w : Underway) : Prop :=
  Program.StartsOwn (fun w' res => ∀ a, res = .ok a → Q w' a) op.run w

variable {Q : Underway → α → Prop} {R : Underway → β → Prop}

theorem startsOwn_pure {a : α} (h : Q w a) : StartsOwn Q (pure a) w := by
  rintro b ⟨⟩
  exact h

theorem startsOwn_fail (e : OperationError) : StartsOwn Q (fail e) w :=
  fun _ impossible => nomatch impossible

theorem startsOwn_bind {op : Operation α} {f : α → Operation β} (first : StartsOwn Q op w)
    (second : ∀ w a, Q w a → StartsOwn R (f a) w) : StartsOwn R (op >>= f) w := by
  refine Program.StartsOwn.bind first fun w res holds => ?_
  cases res with
  | ok a => exact second w a (holds a rfl)
  | error e => exact fun _ impossible => nomatch impossible

theorem StartsOwn.mono {Q' : Underway → α → Prop} {op : Operation α} (h : StartsOwn Q op w)
    (weaker : ∀ w a, Q w a → Q' w a) : StartsOwn Q' op w :=
  Program.StartsOwn.mono h fun w _ holds a eq => weaker w a (holds a eq)

theorem startsOwn_stage {name : String} {op : Operation α} (h : StartsOwn Q op w) :
    StartsOwn Q (stage name op) w := by
  refine Program.StartsOwn.bind h fun w res holds => ?_
  cases res with
  | ok a => exact holds
  | error e => exact fun _ impossible => nomatch impossible

theorem startsOwn_attempt {op : Operation α} (h : StartsOwn Q op w) :
    StartsOwn (fun w' res => ∀ a, res = .ok a → Q w' a) (attempt op) w := by
  refine Program.StartsOwn.bind h fun w res holds => ?_
  rintro _ ⟨⟩
  exact holds

/-- A call that covers only what is under way. -/
theorem startsOwn_tryStore {call : StoreCall} (covers : w.Covers call) :
    StartsOwn (fun w' reply => w' = w.next call reply) (tryStore call) w := by
  refine ⟨covers, fun reply => ?_⟩
  rintro _ ⟨⟩
  rfl

theorem startsOwn_store {call : StoreCall} (covers : w.Covers call) :
    StartsOwn (fun w' reply => w' = w.next call (.ok reply)) (store call) w := by
  refine startsOwn_bind (startsOwn_tryStore covers) fun w' reply same => ?_
  cases reply with
  | ok a => exact startsOwn_pure same
  | error e => exact startsOwn_fail _

/-- An operation that adds no work leaves what is under way. -/
theorem startsOwn_quiet {P : HostCall → Prop} {op : Operation α}
    (h : Calls StoreCall.AddsNoWork P op) (ends : ∀ a, Q w a) : StartsOwn Q op w :=
  Program.Calls.startsOwn h fun _ a _ => ends a

/-- What follows an operation that adds no work begins with the same under way. -/
theorem startsOwn_quiet_bind {P : HostCall → Prop} {op : Operation α} {f : α → Operation β}
    (h : Calls StoreCall.AddsNoWork P op) (second : ∀ a, StartsOwn R (f a) w) :
    StartsOwn R (op >>= f) w := by
  have first : StartsOwn (fun w' _ => w' = w) op w := startsOwn_quiet h fun _ => rfl
  refine startsOwn_bind first fun w' a same => ?_
  rw [same]
  exact second a

/-- Whatever an operation does for each member of a list, with more and more under way. -/
theorem startsOwn_mapM {f : α → Operation β} {P : Underway → Prop} {Q : Underway → β → Prop}
    (grows : ∀ w w' b, w.Grows w' → Q w b → Q w' b)
    (each : ∀ a w, P w → StartsOwn (fun w' b => w.Grows w' ∧ P w' ∧ Q w' b) (f a) w)
    (l : List α) (w : Underway) (holds : P w) :
    StartsOwn (fun w' bs => w.Grows w' ∧ P w' ∧ ∀ b ∈ bs, Q w' b) (l.mapM f) w := by
  induction l generalizing w with
  | nil => exact startsOwn_pure ⟨.refl w, holds, by simp⟩
  | cons a l ih =>
      rw [List.mapM_cons]
      refine startsOwn_bind (each a w holds) fun w₁ b first => ?_
      obtain ⟨more, holds₁, ended⟩ := first
      refine startsOwn_bind (ih w₁ holds₁) fun w₂ bs later => ?_
      obtain ⟨more', holds₂, all⟩ := later
      refine startsOwn_pure ⟨more.trans more', holds₂, ?_⟩
      exact List.forall_mem_cons.mpr ⟨grows w₁ w₂ b more' ended, all⟩

end Operation

open Operation

/-! ### Submissions -/

namespace Picking

variable {w : Underway}

/-- A run is created for a task that is under way, and is so then. -/
theorem startsOwn_createRun (r : Resolved) {task : Task} (dir : String) (settings : RunSettings)
    (own : task.id ∈ w.tasks) :
    StartsOwn (fun w' run => w.Grows w' ∧ task.id ∈ w'.tasks ∧ run.id ∈ w'.runs)
      (createRun r task dir settings) w := by
  have created (new : NewRun) (same : new.task = task.id) :
      StartsOwn (fun w' (run : Run) => w.Grows w' ∧ task.id ∈ w'.tasks ∧ run.id ∈ w'.runs)
        (stage ("creating run " ++ new.name) (ofDomain new.validate >>= fun _ =>
          store (.createRun new))) w := by
    refine startsOwn_stage (startsOwn_quiet_bind (asks_ofDomain (Q := fun _ => True) _).calls ?_)
    intro _
    have covers : w.Covers (.createRun new) := by
      rw [Underway.Covers, same]
      exact own
    refine (startsOwn_store covers).mono fun w' run next => ?_
    rw [next]
    exact ⟨⟨fun _ => id, fun _ => List.mem_cons_of_mem _⟩, own, List.mem_cons_self⟩
  refine startsOwn_bind (created _ rfl) fun w' run all => ?_
  exact startsOwn_quiet_bind (calls_notify (Q := fun _ => True) _) fun _ => startsOwn_pure all

/-- A task is created with its runs, and they are under way then. -/
theorem startsOwn_createTask (r : Resolved) (submission : Submission) (dir : String)
    (settings : TaskSettings) :
    StartsOwn (fun w' created => w.Grows w' ∧ ∀ run ∈ created.2, run.id ∈ w'.runs)
      (createTask r submission dir settings) w := by
  refine startsOwn_bind (startsOwn_stage (startsOwn_store trivial)) fun w₁ task created => ?_
  have own : task.id ∈ w₁.tasks := by
    rw [created]
    exact List.mem_cons_self
  have more : w.Grows w₁ := by
    rw [created]
    exact ⟨fun _ => List.mem_cons_of_mem _, fun _ => id⟩
  have runs := startsOwn_mapM (P := fun w => task.id ∈ w.tasks)
    (Q := fun w (run : Run) => run.id ∈ w.runs)
    (fun _ _ _ more mem => more.runs mem)
    (fun settings w own => startsOwn_createRun r dir settings own) settings.runs.values w₁ own
  refine startsOwn_bind runs fun w₂ rs all => ?_
  obtain ⟨more', -, all⟩ := all
  exact startsOwn_pure ⟨more.trans more', all⟩

/-- Picking leaves **the picked runs** under way. -/
theorem startsOwn_pick (limit : Nat) (r : Resolved) :
    StartsOwn (fun w' picked => ∀ run ∈ picked.runs, run.id ∈ w'.runs) (pick limit r) w := by
  have quiet {α : Type} {P : HostCall → Prop} {op : Operation α}
      (h : Calls StoreCall.IsLookup P op) : Calls StoreCall.AddsNoWork P op :=
    h.mono (fun _ lookup => lookup.addsNoWork) fun _ => id
  rw [pick]
  refine startsOwn_quiet_bind (asks_stage (asks_host (Q := fun _ => True) trivial)).calls ?_
  intro files
  refine startsOwn_quiet_bind (asks_ofConfig (Q := fun _ => True) _).calls ?_
  intro tasks
  refine startsOwn_quiet_bind (quiet (asks_selection files tasks).calls) ?_
  intro selected
  refine startsOwn_quiet_bind (calls_stage (calls_store (Q := fun _ => True) trivial)) ?_
  intro submission
  refine startsOwn_quiet_bind (quiet (asks_lift (asks_load limit selected)).calls) ?_
  intro loaded
  cases loaded with
  | error fault =>
      refine startsOwn_quiet_bind (quiet (asks_complain _ _).calls) ?_
      intro _
      exact startsOwn_stage (startsOwn_fail _)
  | ok loaded =>
      have created := startsOwn_mapM (P := fun _ => True)
        (Q := fun w (created : Task × List Run) => ∀ run ∈ created.2, run.id ∈ w.runs)
        (fun _ _ _ more all run mem => more.runs (all run mem))
        (fun x w _ => (startsOwn_createTask (w := w) r submission x.1 x.2).mono
          fun _ _ all => ⟨all.1, trivial, all.2⟩) loaded.entries w trivial
      refine startsOwn_bind created fun w' created all => startsOwn_pure fun run mem => ?_
      obtain ⟨rs, memRuns, memRun⟩ := List.mem_flatten.mp mem
      obtain ⟨x, known, rfl⟩ := List.mem_map.mp memRuns
      exact all.2.2 x known run memRun

end Picking

namespace Intake

variable {w : Underway}

/-- A submission queues only the runs that it has created, and then it adds no more work. -/
theorem startsOwn_start (limit : Nat) (r : Resolved) :
    StartsOwn (fun _ _ => True) (start limit r) w := by
  rw [start_eq]
  refine startsOwn_bind (startsOwn_stage (Picking.startsOwn_pick limit r)) fun w picked own => ?_
  have covers : w.Covers (.enqueue picked.batch) := by
    intro x mem
    obtain ⟨run, known, rfl⟩ := List.mem_map.mp mem
    exact own run known
  refine startsOwn_bind (startsOwn_tryStore covers) fun w reply _ => ?_
  refine startsOwn_quiet (P := fun _ => True) ?_ fun _ => trivial
  cases reply with
  | ok items => exact calls_bind (calls_stage (calls_store trivial)) fun _ => calls_pure _
  | error e => exact calls_bind (calls_failRuns _ _) fun _ => calls_stage (calls_fail _)

theorem startsOwn_submit (limit : Nat) (request : SubmissionRequest) :
    StartsOwn (fun _ _ => True) (submit limit request) w := by
  refine startsOwn_quiet_bind (calls_stage (Resolution.calls_resolve request)) fun r => ?_
  refine startsOwn_bind (startsOwn_attempt (startsOwn_start limit r)) fun w outcome _ => ?_
  cases outcome with
  | ok submitted => exact startsOwn_pure trivial
  | error e =>
      exact startsOwn_quiet_bind (calls_notify (Q := fun _ => True) _) fun _ => startsOwn_fail _

end Intake

/-- On every demand, only the demand's **own work** is started. -/
theorem Demand.startsOwn (d : Demand) (w : Underway) :
    Operation.StartsOwn (fun _ _ => True) d.operation w := by
  cases d with
  | submit limit request => exact Intake.startsOwn_submit limit request
  | take limit what =>
      cases what with
      | submission request =>
          exact startsOwn_bind (Intake.startsOwn_submit limit request) fun _ _ _ =>
            startsOwn_pure trivial
      | closedPullRequest repository number =>
          exact startsOwn_quiet_bind (P := fun _ => True)
            (Cancellation.calls_pullRequest repository number) fun _ => startsOwn_pure trivial
  | _ => exact startsOwn_quiet (Demand.calls_quiet (Q := Resolution.Anything) id) fun _ => trivial

end Dispatch
