import Dispatch.Proofs.History

/-!
# What the tables say about each other

Between two demands, whoever reads the store finds the same story in each of its tables. Part of
it holds whatever fails; that no run is lost holds as long as the store does not fail.

## Main definitions

* `Store.Consistent`: the tables do not contradict each other.
* `Store.Dispatched`: each run without a status has its place on the queue.

## Main results

* `Store.ReachableBy.consistent`: every reachable store is consistent, whatever fails.
* `Store.ReachableBy.dispatched`: where the store never fails, no run is lost and none is stuck.
-/

namespace Dispatch.Store

/-- Among records with distinct keys, one at most has a given key. -/
theorem countP_key_le_one {α : Type} {key : α → Id} {l : List α} (distinct : (l.map key).Nodup)
    (k : Id) : l.countP (fun a => key a = k) ≤ 1 := by
  have once := List.nodup_iff_count_le_one.mp distinct k
  rw [List.count_eq_countP, List.countP_map] at once
  simpa only [Function.comp_def, beq_eq_decide] using once

/-- Among records with distinct keys, exactly one has a key that occurs. -/
theorem countP_key_eq_one {α : Type} {key : α → Id} {l : List α} (distinct : (l.map key).Nodup)
    {k : Id} (mem : k ∈ l.map key) : l.countP (fun a => key a = k) = 1 := by
  obtain ⟨a, known, same⟩ := List.mem_map.mp mem
  refine Nat.le_antisymm (countP_key_le_one distinct k) (List.countP_pos_iff.mpr ⟨a, known, ?_⟩)
  exact decide_eq_true same

/-- The run of a queue item and the task of that run are found. -/
theorem Integrity.item_work {s : Store} (h : s.Integrity) {i : StoredItem} (queued : i ∈ s.queue) :
    ∃ r ∈ s.runs, ∃ t ∈ s.tasks, r.id = i.run ∧ t.id = r.task ∧ s.run? i.run = some r ∧
      s.task? r.task = some t := by
  obtain ⟨r, known, run⟩ := h.exists_run queued
  obtain ⟨t, knownTask, task⟩ := h.exists_task known
  exact ⟨r, known, t, knownTask, run, task, h.run?_eq_some.mpr ⟨known, run⟩,
    h.task?_eq_some.mpr ⟨knownTask, task⟩⟩

/-! ### Whatever fails -/

/-- The tables of tasks, runs and queue items **do not contradict** each other. -/
structure Consistent (s : Store) : Prop where
  /-- No run is on the queue more than once. -/
  once : ∀ r ∈ s.runs, s.queue.countP (·.run = r.id) ≤ 1
  /-- A run on the queue has no status, and its task has not finished. -/
  waiting : ∀ i ∈ s.queue, ∃ r t, s.run? i.run = some r ∧ s.task? r.task = some t ∧
    r.status = none ∧ t.isFinished = false
  /-- A task has finished exactly if it was canceled or has runs, all of them with a status. -/
  finished_iff : ∀ t ∈ s.tasks, t.isFinished = true ↔ t.canceled = true ∨
    s.runsOf t.id ≠ [] ∧ ∀ r ∈ s.runsOf t.id, r.status.isSome = true
  /-- A finished task has no run without a status. -/
  settled : ∀ t ∈ s.tasks, t.isFinished = true → ∀ r ∈ s.runsOf t.id, r.status.isSome = true
  /-- A finished task that was not canceled succeeded exactly if all its runs did. -/
  sums : ∀ t ∈ s.tasks, t.isFinished = true → t.canceled = false →
    t.status = some ((s.runsOf t.id).all (·.status = some true))
  /-- A canceled task failed. -/
  fails : ∀ t ∈ s.tasks, t.canceled = true → t.status = some false
  runStamps : ∀ r ∈ s.runs, r.status.isSome = r.finishedAt.isSome
  taskStamps : ∀ t ∈ s.tasks, t.status.isSome = t.finishedAt.isSome

/-- Whatever the code host answers, and whichever calls to the store fail, a reachable store is
**consistent**. -/
theorem ReachableBy.consistent {s : Store} (h : s.ReachableBy fun _ => True) : s.Consistent where
  once r _ := countP_key_le_one h.integrity.itemRuns r.id
  waiting i queued := by
    obtain ⟨r, known, t, knownTask, run, task, foundRun, foundTask⟩ := h.integrity.item_work queued
    have unended := h.coherent.items i queued r known run
    exact ⟨r, t, foundRun, foundTask, unended, h.coherent.unfinished known unended knownTask task⟩
  finished_iff t known := (h.coherent.tasks t known).finished_iff
  settled t known := (h.coherent.tasks t known).closed
  sums t known := (h.coherent.tasks t known).sums
  fails t known := (h.coherent.tasks t known).fails
  runStamps := h.coherent.runs
  taskStamps t known := (h.coherent.tasks t known).stamped

/-- After a commit has been submitted and a worker has claimed its run, the store is consistent. -/
theorem consistent_sample : ∃ s : Store, s.ReachableBy (fun _ => True) ∧
    s.queue.map (·.running) = [true] ∧ s.Consistent := by
  obtain ⟨_, σ, submitted, next⟩ := Session.exists_of_succeeds
    (Demand.submit 5 (Sample.request Sample.first)).operation Sample.session
    (fun _ σ => Session.succeeds (Demand.next "" "bob").operation σ fun _ σ =>
      σ.store.queue.map (·.running) = [true]) (by decide +kernel)
  obtain ⟨_, σ', claimed, running⟩ := Session.exists_of_succeeds _ _ _ next
  obtain ⟨reached, silent⟩ :=
    (Sample.reachable fun _ => True).perform rfl (fun _ _ => trivial) submitted
  have reached' := (reached.perform silent (fun _ _ => trivial) claimed).1
  exact ⟨σ'.store, reached', of_decide_eq_true running, reached'.consistent⟩

/-! ### As long as the store does not fail -/

/-- Each run without a status **has its place** on the queue, and whether it has been claimed is
told alike by the item, the run and the task. -/
structure Dispatched (s : Store) : Prop where
  /-- A run without a status is on the queue exactly once. -/
  present : ∀ r ∈ s.runs, r.status = none → s.queue.countP (·.run = r.id) = 1
  /-- An item is on the queue that the settings of its run name. -/
  place : ∀ i ∈ s.queue, ∃ r, s.run? i.run = some r ∧ i.queue = r.settings.queue ∧ i.queue ≠ ""
  /-- An item has been claimed exactly if the worker and the time are known and the run has
  started. -/
  claimed_iff : ∀ i ∈ s.queue, ∃ r, s.run? i.run = some r ∧ i.runningOn.isSome = i.running ∧
    i.startedAt.isSome = i.running ∧ r.startedAt.isSome = i.running
  /-- Then the task has started as well. -/
  started : ∀ i ∈ s.queue, i.running = true → ∃ r t, s.run? i.run = some r ∧
    s.task? r.task = some t ∧ t.startedAt.isSome = true

/-- Whatever the code host answers, as long as the store does not fail **no run is lost** and none
is stuck. -/
theorem ReachableBy.dispatched {s : Store} (h : s.ReachableBy Trace.Faultless) :
    s.Dispatched where
  present r known unended :=
    countP_key_eq_one h.integrity.itemRuns (h.accounted.queued r known unended)
  place i queued := by
    obtain ⟨r, known, t, knownTask, run, task, foundRun, foundTask⟩ := h.integrity.item_work queued
    exact ⟨r, foundRun, (h.accounted.tallies i queued r known run).queue,
      h.integrity.itemQueue i queued⟩
  claimed_iff i queued := by
    obtain ⟨r, known, t, knownTask, run, task, foundRun, foundTask⟩ := h.integrity.item_work queued
    have tallies := h.accounted.tallies i queued r known run
    exact ⟨r, foundRun, tallies.worker, tallies.claimed, tallies.started⟩
  started i queued running := by
    obtain ⟨r, known, t, knownTask, run, task, foundRun, foundTask⟩ := h.integrity.item_work queued
    exact ⟨r, t, foundRun, foundTask,
      h.accounted.started i queued running r known run t knownTask task⟩

/-- After a commit has been submitted, its run waits on the queue. -/
theorem dispatched_sample : ∃ s : Store, s.ReachableBy Trace.Faultless ∧
    s.queue.map (·.running) = [false] ∧ s.Dispatched := by
  obtain ⟨_, σ, submitted, waiting⟩ := Session.exists_of_succeeds
    (Demand.submit 5 (Sample.request Sample.first)).operation Sample.session
    (fun _ σ => σ.store.queue.map (·.running) = [false]) (by decide +kernel)
  obtain ⟨reached, -⟩ := (Sample.reachable Trace.Faultless).perform rfl (fun _ => id) submitted
  exact ⟨σ.store, reached, of_decide_eq_true waiting, reached.dispatched⟩

end Dispatch.Store
