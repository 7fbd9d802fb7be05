import Dispatch.Proofs.Store.Step

/-!
# Coherence of tasks, runs and queue items

Three tables tell how far the work has got: the tasks, the runs and the queue. Whatever happens,
they agree: a task has finished exactly when it was canceled or all of its runs have a status, its
status sums up theirs, and only runs without a status are on the queue.

A task agrees with its runs or it does not, whatever the other tasks are. So each step is traced
back to what it does to one task and its runs.

## Main definitions

* `Task.Coheres`: a task agrees with its runs.
* `Store.Coherent`: tasks, runs and queue items agree.

## Main results

* `Store.Coherent.step`: a step of the store keeps the agreement.
* `Store.Coherent.addWork`, `Store.Coherent.queueing`: so do fresh tasks with fresh runs, and a
  batch of runs without a status.
-/

namespace Dispatch

/-! ### A task and its runs -/

/-- A task that **has just been added**. -/
structure Task.Fresh (t : Task) : Prop where
  canceled : t.canceled = false
  status : t.status = none
  startedAt : t.startedAt = none
  finishedAt : t.finishedAt = none

/-- A run that **has just been added**. -/
structure Run.Fresh (r : Run) : Prop where
  startedAt : r.startedAt = none
  finishedAt : r.finishedAt = none
  status : r.status = none

/-- A task **agrees** with its runs. -/
structure Task.Coheres (t : Task) (runs : List Run) : Prop where
  finished_iff : t.isFinished = true ↔
    t.canceled = true ∨ runs ≠ [] ∧ ∀ r ∈ runs, r.status.isSome = true
  /-- A finished task has no run without a status. -/
  closed : t.isFinished = true → ∀ r ∈ runs, r.status.isSome = true
  /-- The status of a task that was not canceled sums up those of its runs. -/
  sums : t.isFinished = true → t.canceled = false →
    t.status = some (runs.all (·.status = some true))
  fails : t.canceled = true → t.status = some false
  stamped : t.status.isSome = t.finishedAt.isSome

namespace Task.Coheres

variable {t : Task} {runs runs' : List Run}

/-- Only the statuses of the runs matter. -/
theorem of_statuses (h : t.Coheres runs) (same : runs'.map (·.status) = runs.map (·.status)) :
    t.Coheres runs' := by
  have all (P : Option Bool → Prop) : (∀ r ∈ runs', P r.status) ↔ ∀ r ∈ runs, P r.status := by
    rw [← List.forall_mem_map, same, List.forall_mem_map]
  have empty : runs' = [] ↔ runs = [] := by
    rw [← List.map_eq_nil_iff (f := (·.status)), same, List.map_eq_nil_iff]
  have allTrue : runs'.all (·.status = some true) = runs.all (·.status = some true) := by
    rw [Bool.eq_iff_iff]
    simpa only [List.all_eq_true, decide_eq_true_eq] using all (· = some true)
  exact
    { finished_iff := by rw [all (·.isSome = true), Ne, empty]; exact h.finished_iff
      closed := fun finished => (all (·.isSome = true)).mpr (h.closed finished)
      sums := fun finished kept => by rw [allTrue]; exact h.sums finished kept
      fails := h.fails
      stamped := h.stamped }

/-- A task without an end agrees with its runs if one of them is open, or if it has none. -/
theorem of_unfinished (unfinished : t.isFinished = false) (kept : t.canceled = false)
    (unset : t.status = none) (rest : runs = [] ∨ ∃ r ∈ runs, r.status = none) :
    t.Coheres runs where
  finished_iff := by
    rw [unfinished, kept]
    refine ⟨fun h => (nomatch h), ?_⟩
    rintro (h | ⟨nonempty, ended⟩)
    · cases h
    · rcases rest with empty | ⟨r, mem, unended⟩
      · exact absurd empty nonempty
      · have := ended r mem
        rw [unended] at this
        cases this
  closed finished := by rw [unfinished] at finished; cases finished
  sums finished := by rw [unfinished] at finished; cases finished
  fails canceled := by rw [kept] at canceled; cases canceled
  stamped := by rw [unset]; exact unfinished.symm

/-- An unfinished task that agrees with its runs has neither been canceled nor got a status. -/
theorem unset (h : t.Coheres runs) (unfinished : t.isFinished = false) :
    t.canceled = false ∧ t.status = none := by
  constructor
  · refine Bool.eq_false_iff.mpr fun canceled => ?_
    rw [h.finished_iff.mpr (.inl canceled)] at unfinished
    cases unfinished
  · have stamped := h.stamped
    rw [← Task.isFinished, unfinished] at stamped
    exact Option.isNone_iff_eq_none.mp (by rw [← Option.not_isSome, stamped]; rfl)

/-- A run without a status belongs to an unfinished task. -/
theorem unfinished (h : t.Coheres runs) {r : Run} (mem : r ∈ runs) (unended : r.status = none) :
    t.isFinished = false := by
  refine Bool.eq_false_iff.mpr fun finished => ?_
  have := h.closed finished r mem
  rw [unended] at this
  cases this

/-- A canceled task agrees with its runs once all of them have ended. -/
theorem endCanceled (now : Timestamp) (ended : ∀ r ∈ runs, r.status.isSome = true) :
    (Store.endCanceled now t).Coheres runs where
  finished_iff := ⟨fun _ => .inl rfl, fun _ => rfl⟩
  closed _ := ended
  sums _ kept := by cases kept
  fails _ := rfl
  stamped := rfl

/-- A task that ends with what its runs sum up to agrees with them. -/
theorem endTask (h : t.Coheres runs) (now : Timestamp) {result : Bool}
    (unfinished : t.isFinished = false) (nonempty : runs' ≠ [])
    (sums : Store.rolledUp? runs' = some result) : (Store.endTask now result t).Coheres runs' := by
  have kept := (h.unset unfinished).1
  rw [Store.rolledUp?] at sums
  split at sums
  · next ended =>
    rw [List.all_eq_true] at ended
    exact
      { finished_iff := ⟨fun _ => .inr ⟨nonempty, ended⟩, fun _ => rfl⟩
        closed := fun _ => ended
        sums := fun _ _ => sums.symm
        fails := fun canceled => by rw [Store.endTask, kept] at canceled; cases canceled
        stamped := rfl }
  · cases sums

/-- That a task starts makes no difference. -/
theorem startTask (h : t.Coheres runs) (now : Timestamp) : (Store.startTask now t).Coheres runs :=
  ⟨h.finished_iff, h.closed, h.sums, h.fails, h.stamped⟩

end Task.Coheres

/-! ### The store -/

namespace Store

/-- Tasks, runs and queue items **agree**. -/
structure Coherent (s : Store) : Prop where
  tasks : ∀ t ∈ s.tasks, t.Coheres (s.runsOf t.id)
  /-- A run gets its status and the time at which it finished together. -/
  runs : ∀ r ∈ s.runs, r.status.isSome = r.finishedAt.isSome
  /-- Only runs without a status are on the queue. -/
  items : ∀ i ∈ s.queue, ∀ r ∈ s.runs, r.id = i.run → r.status = none

/-- An unfinished task has no status. -/
theorem Coherent.unset {s : Store} (h : s.Coherent) :
    ∀ t ∈ s.tasks, t.isFinished = false → t.status = none :=
  fun t known unfinished => ((h.tasks t known).unset unfinished).2

@[simp] theorem mem_runsOf {s : Store} {task : Id} {r : Run} :
    r ∈ s.runsOf task ↔ r ∈ s.runs ∧ r.task = task := by
  simp [runsOf]

/-- Revisions leave each run with its task. -/
theorem runsOf_revise (s : Store) {task : Task → Task} {run : Run → Run}
    {keep : StoredItem → Bool} {item : StoredItem → StoredItem} (f : Revises task run item)
    (id : Id) : (s.revise task run keep item).runsOf id = (s.runsOf id).map run := by
  simp only [runsOf, revise, List.filter_map]
  congr 2
  funext r
  simp [(f.run r).task]

theorem map_eq_self {α : Type} {f : α → α} {l : List α} (same : ∀ a ∈ l, f a = a) :
    l.map f = l := by
  rw [List.map_congr_left same, List.map_id']

/-- The store without records. -/
theorem coherent_empty : Coherent empty where
  tasks := by simp [empty]
  runs := by simp [empty]
  items := by simp [empty]

namespace Coherent

variable {s : Store}

/-- A run without a status belongs to an unfinished task. -/
theorem unfinished (h : s.Coherent) {r : Run} (known : r ∈ s.runs) (unended : r.status = none)
    {t : Task} (knownTask : t ∈ s.tasks) (task : t.id = r.task) : t.isFinished = false :=
  (h.tasks t knownTask).unfinished (mem_runsOf.mpr ⟨known, task.symm⟩) unended

/-! ### Revisions -/

section Revisions

variable {task : Task → Task} {run : Run → Run} {keep : StoredItem → Bool}
  {item : StoredItem → StoredItem}

/-- A revision keeps the agreement if each task agrees with its runs afterwards, and the runs that
stay on the queue have not got a status. -/
theorem revise (f : Revises task run item)
    (tasks : ∀ t ∈ s.tasks, (task t).Coheres ((s.runsOf t.id).map run))
    (runs : ∀ r ∈ s.runs, (run r).status.isSome = (run r).finishedAt.isSome)
    (items : ∀ i ∈ s.queue, keep i = true → ∀ r ∈ s.runs, r.id = i.run → (run r).status = none) :
    (s.revise task run keep item).Coherent where
  tasks := by
    rintro _ changed
    obtain ⟨t, mem, rfl⟩ := List.mem_map.mp changed
    rw [(f.task t).id, runsOf_revise s f]
    exact tasks t mem
  runs := by
    rintro _ changed
    obtain ⟨r, mem, rfl⟩ := List.mem_map.mp changed
    exact runs r mem
  items := by
    rintro _ changed _ changedRun same
    obtain ⟨i, mem, rfl⟩ := List.mem_map.mp changed
    obtain ⟨r, memRun, rfl⟩ := List.mem_map.mp changedRun
    obtain ⟨mem, kept⟩ := List.mem_filter.mp mem
    rw [(f.run r).id, (f.item i).run] at same
    exact items i mem kept r memRun same

end Revisions

/-- Canceling a task keeps the agreement. -/
theorem cancel (h : s.Coherent) (now : Timestamp) (t : Task) :
    (s.canceling now t.id).Coherent := by
  rw [canceling_eq]
  refine revise (revises_canceling now t.id) ?_ ?_ ?_
  · intro u mem
    by_cases same : u.id = t.id
    · rw [if_pos same]
      refine .endCanceled now ?_
      rintro _ changed
      obtain ⟨r, memRun, rfl⟩ := List.mem_map.mp changed
      have task : r.task = t.id := (mem_runsOf.mp memRun).2.trans same
      cases status : r.status with
      | none => simp [isOpenRunOf, task, status, Store.endRun]
      | some b => simp [isOpenRunOf, status]
    · rw [if_neg same, map_eq_self]
      · exact h.tasks u mem
      · intro r memRun
        have other : r.task ≠ t.id := by rw [(mem_runsOf.mp memRun).2]; exact same
        simp [isOpenRunOf, other]
  · intro r mem
    split
    · rfl
    · exact h.runs r mem
  · intro i mem kept r memRun same
    have unended := h.items i mem r memRun same
    split
    · next isOpen =>
      have dropped : i.run ∈
          ((s.runs.filter (isOpenRunOf t.id)).map (Store.endRun now false)).map (·.id) := by
        rw [← same]
        exact List.mem_map.mpr ⟨_, List.mem_map.mpr
          ⟨r, List.mem_filter.mpr ⟨memRun, isOpen⟩, rfl⟩, rfl⟩
      rw [List.contains_iff_mem.mpr dropped] at kept
      cases kept
    · exact unended

/-- Ending a run keeps the agreement if what becomes of its task agrees with its runs. -/
theorem revise_endRun (h : s.Coherent) (whole : s.Integrity) (now : Timestamp) (status : Bool)
    {r : Run} (known : r ∈ s.runs) {change : Task → Task}
    (revises : Revises change (fun q => if q.id = r.id then Store.endRun now status q else q) id)
    (others : ∀ t ∈ s.tasks, t.id ≠ r.task → change t = t)
    (own : ∀ t ∈ s.tasks, t.id = r.task →
      (change t).Coheres ((s.ending now r.id status).runsOf t.id)) :
    (s.revise change (fun q => if q.id = r.id then Store.endRun now status q else q)
      (fun i => !([r.id].contains i.run)) id).Coherent := by
  refine revise revises ?_ ?_ ?_
  · intro t mem
    by_cases same : t.id = r.task
    · have agrees := own t mem same
      rw [ending_eq, runsOf_revise s (revises_ending now r.id status)] at agrees
      exact agrees
    · rw [others t mem same, map_eq_self]
      · exact h.tasks t mem
      · intro q memRun
        obtain ⟨memRun, task⟩ := mem_runsOf.mp memRun
        refine if_neg fun eq => same ?_
        rw [← task, whole.eq_of_run_id memRun known eq]
  · intro q mem
    split
    · rfl
    · exact h.runs q mem
  · intro i mem kept q memRun same
    rw [if_neg]
    · exact h.items i mem q memRun same
    · intro eq
      rw [eq] at same
      simp [same] at kept

/-- Ending a run that is not the last open one keeps the agreement. -/
theorem endRun (h : s.Coherent) (whole : s.Integrity) (now : Timestamp) (status : Bool) {r : Run}
    {t : Task} (known : r ∈ s.runs) (unended : r.status = none) (knownTask : t ∈ s.tasks)
    (task : t.id = r.task)
    (rest : t.isFinished = true ∨ rolledUp? ((s.ending now r.id status).runsOf t.id) = none) :
    (s.ending now r.id status).Coherent := by
  have unfinished := h.unfinished known unended knownTask task
  have unset := (h.tasks t knownTask).unset unfinished
  have summing : rolledUp? ((s.ending now r.id status).runsOf t.id) = none := by
    rw [unfinished] at rest
    exact rest.resolve_left fun h => (nomatch h)
  rw [ending_eq]
  refine h.revise_endRun whole now status known (revises_ending now r.id status)
    (fun _ _ _ => rfl) ?_
  intro u mem same
  obtain rfl : u = t := whole.eq_of_task_id mem knownTask (same.trans task.symm)
  refine .of_unfinished unfinished unset.1 unset.2 (.inr ?_)
  rw [rolledUp?] at summing
  split at summing
  · cases summing
  · next rest =>
    simpa [and_assoc] using rest

/-- Ending the last open run of a task with the task keeps the agreement. -/
theorem endTask (h : s.Coherent) (whole : s.Integrity) (now : Timestamp) (status : Bool)
    {result : Bool} {r : Run} {t : Task} (known : r ∈ s.runs) (knownTask : t ∈ s.tasks)
    (task : t.id = r.task) (unfinished : t.isFinished = false)
    (sums : rolledUp? ((s.ending now r.id status).runsOf t.id) = some result) :
    ((s.ending now r.id status).changeTask t.id (Store.endTask now result)).Coherent := by
  rw [ending_changeTask_eq]
  refine h.revise_endRun whole now status known
    (revises_ending_endTask now r.id status t.id result) ?_ ?_
  · intro u mem other
    exact if_neg fun same => other (same.trans task)
  · intro u mem same
    obtain rfl : u = t := whole.eq_of_task_id mem knownTask (same.trans task.symm)
    rw [if_pos rfl]
    refine (h.tasks u knownTask).endTask now unfinished ?_ sums
    rw [ending_eq, runsOf_revise s (revises_ending now r.id status), Ne, List.map_eq_nil_iff]
    exact List.ne_nil_of_mem (mem_runsOf.mpr ⟨known, task.symm⟩)

/-- Claiming an item keeps the agreement. -/
theorem claim (h : s.Coherent) (now : Timestamp) (worker : String) (i : StoredItem) (r : Run) :
    (s.claiming now worker i r).Coherent := by
  have status (q : Run) : (if q.id = r.id then startRun now q else q).status = q.status := by
    split <;> rfl
  rw [claiming_eq]
  refine revise (revises_claiming now worker r.task r.id i.position) ?_ ?_ ?_
  · intro t mem
    have agrees := (h.tasks t mem).of_statuses (map_map_of_same status (s.runsOf t.id))
    split
    · exact agrees.startTask now
    · exact agrees
  · intro q mem
    split
    · exact h.runs q mem
    · exact h.runs q mem
  · intro j mem _ q memRun same
    rw [status]
    exact h.items j mem q memRun same

/-! ### More records -/

/-- Fresh tasks come in addition, with fresh runs of theirs. -/
theorem addWork (h : s.Coherent) {ts : List Task} {rs : List Run}
    (whole : (s.addWork ts rs).Integrity) (old : ∀ r ∈ s.runs, r.task ∈ s.tasks.map (·.id))
    (tasks : ∀ t ∈ ts, t.Fresh) (runs : ∀ r ∈ rs, r.Fresh ∧ r.task ∈ ts.map (·.id)) :
    (s.addWork ts rs).Coherent where
  tasks := by
    have apart := List.nodup_append'.mp (List.map_append ▸ whole.tasks.nodup)
    have split (id : Id) : (s.addWork ts rs).runsOf id = s.runsOf id ++ rs.filter (·.task = id) :=
      List.filter_append ..
    refine List.forall_mem_append.mpr ⟨fun t mem => ?_, fun t mem => ?_⟩
    · have noNewRuns : rs.filter (·.task = t.id) = [] := by
        refine List.filter_eq_nil_iff.mpr fun r memRun same => ?_
        have new := (runs r memRun).2
        rw [of_decide_eq_true same] at new
        exact apart.2.2 (List.mem_map_of_mem mem) new
      rw [split, noNewRuns, List.append_nil]
      exact h.tasks t mem
    · have noOldRuns : s.runsOf t.id = [] := by
        refine List.filter_eq_nil_iff.mpr fun r memRun same => ?_
        have known := old r memRun
        rw [of_decide_eq_true same] at known
        exact apart.2.2 known (List.mem_map_of_mem mem)
      rw [split, noOldRuns, List.nil_append]
      obtain ⟨kept, unset, unstarted, unfinished⟩ := tasks t mem
      refine .of_unfinished (by rw [Task.isFinished, unfinished]; rfl) kept unset ?_
      cases own : rs.filter (·.task = t.id) with
      | nil => exact .inl rfl
      | cons r rest =>
          have first : r ∈ rs.filter (·.task = t.id) := by
            rw [own]
            exact List.mem_cons_self
          have fresh := (runs r (List.mem_of_mem_filter first)).1
          exact .inr ⟨r, List.mem_cons_self, fresh.status⟩
  runs := List.forall_mem_append.mpr ⟨h.runs, fun r mem => by
    rw [(runs r mem).1.status, (runs r mem).1.finishedAt]
    rfl⟩
  items := by
    intro i mem r memRun same
    rcases List.mem_append.mp memRun with known | new
    · exact h.items i mem r known same
    · exact (runs r new).1.status

/-- A batch of runs without a status comes onto the queue. -/
theorem queueing (h : s.Coherent) {batch : List NewQueueItem}
    (unended : ∀ new ∈ batch, ∀ r ∈ s.runs, r.id = new.run → r.status = none) :
    (s.queueing batch).Coherent where
  tasks := h.tasks
  runs := h.runs
  items := by
    refine List.forall_mem_append.mpr ⟨h.items, fun i mem r memRun same => ?_⟩
    obtain ⟨new, known, eq, -, -⟩ := mem_newItems mem
    rw [eq] at same
    exact unended new known r memRun same

/-- A **step** keeps the agreement. -/
theorem step (h : s.Coherent) (whole : s.Integrity) {s' : Store} (st : s.Step s') :
    s'.Coherent := by
  cases st with
  | stay => exact h
  | addUser => exact ⟨h.tasks, h.runs, h.items⟩
  | addRepository => exact ⟨h.tasks, h.runs, h.items⟩
  | addRef => exact ⟨h.tasks, h.runs, h.items⟩
  | addSubmission => exact ⟨h.tasks, h.runs, h.items⟩
  | claim now worker i r => exact h.claim now worker i r
  | endRun now status r t known unended knownTask task rest =>
      exact h.endRun whole now status known unended knownTask task rest
  | endTask now status result r t known _ knownTask task unfinished sums =>
      exact h.endTask whole now status known knownTask task unfinished sums
  | cancel now t => exact h.cancel now t

end Coherent

end Store

/-- An operation that adds no work keeps the agreement. -/
theorem Operation.Ends.coherent {α : Type} {op : Operation α} {s s' : Store} {tr : Trace}
    {res : Except OperationError α} {Q : HostCall → Prop} (h : op.Ends s tr res s')
    (quiet : op.Calls StoreCall.AddsNoWork Q) (whole : s.Integrity) (holds : s.Coherent) :
    s'.Coherent :=
  (h.keeps (I := fun s => s.Integrity ∧ s.Coherent)
    (fun call quiet now _ holds => ⟨call.run_integrity holds.1 now,
      holds.2.step holds.1 (call.run_step holds.1 quiet now)⟩) quiet ⟨whole, holds⟩).2

end Dispatch
