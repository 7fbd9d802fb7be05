import Dispatch.Proofs.Coherence
import Dispatch.Proofs.Submission.Recording

/-!
# No run is lost

As long as the store does not fail, every run without a status has its place on the queue, and the
item, the run and the task agree on whether a worker has claimed it.

While a submission is started this does not hold: between the recording of a run and the batch that
puts it on the queue, the run has no place there. So that part is taken as one.

## Main definitions

* `StoredItem.Tallies`: an item agrees with its run.
* `Store.Accounted`: every open run has its place on the queue, and all items agree with their
  runs and tasks.

## Main results

* `Store.Accounted.step`: a step of the store keeps that.
* `Store.Accounted.start`: so do fresh tasks with fresh runs that are put on the queue.
-/

namespace Dispatch

/-- A queue item **agrees** with its run: it is on the run's queue, and it has been claimed exactly
when the run has started. -/
structure StoredItem.Tallies (i : StoredItem) (r : Run) : Prop where
  queue : i.queue = r.settings.queue
  worker : i.runningOn.isSome = i.running
  claimed : i.startedAt.isSome = i.running
  started : r.startedAt.isSome = i.running

namespace Store

/-- Every run without a status is **accounted for** by a queue item. -/
structure Accounted (s : Store) : Prop where
  queued : ∀ r ∈ s.runs, r.status = none → r.id ∈ s.queue.map (·.run)
  tallies : ∀ i ∈ s.queue, ∀ r ∈ s.runs, r.id = i.run → i.Tallies r
  /-- Where a run has been claimed, its task has started. -/
  started : ∀ i ∈ s.queue, i.running = true → ∀ r ∈ s.runs, r.id = i.run →
    ∀ t ∈ s.tasks, t.id = r.task → t.startedAt.isSome = true

theorem accounted_empty : Accounted empty where
  queued := by simp [empty]
  tallies := by simp [empty]
  started := by simp [empty]

namespace Accounted

variable {s : Store}

/-! ### Revisions -/

section Revisions

variable {task : Task → Task} {run : Run → Run} {keep : StoredItem → Bool}
  {item : StoredItem → StoredItem}

/-- A revision keeps every run accounted for if runs without a status stay on the queue, and the
items there agree with their runs and tasks afterwards. -/
theorem revise (h : s.Accounted) (f : Revises task run item)
    (unended : ∀ r ∈ s.runs, (run r).status = none →
      r.status = none ∧ ∀ i ∈ s.queue, i.run = r.id → keep i = true)
    (tallies : ∀ i ∈ s.queue, keep i = true → ∀ r ∈ s.runs, r.id = i.run →
      (item i).Tallies (run r))
    (started : ∀ i ∈ s.queue, keep i = true → (item i).running = true → ∀ r ∈ s.runs,
      r.id = i.run → ∀ t ∈ s.tasks, t.id = r.task → (task t).startedAt.isSome = true) :
    (s.revise task run keep item).Accounted where
  queued := by
    rintro _ changed ended
    obtain ⟨r, known, rfl⟩ := List.mem_map.mp changed
    obtain ⟨unfinished, kept⟩ := unended r known ended
    obtain ⟨i, mem, same⟩ := List.mem_map.mp (h.queued r known unfinished)
    refine List.mem_map.mpr ⟨item i, List.mem_map.mpr ⟨i, ?_, rfl⟩, ?_⟩
    · exact List.mem_filter.mpr ⟨mem, kept i mem same⟩
    · rw [(f.item i).run, (f.run r).id, same]
  tallies := by
    rintro _ changed _ changedRun same
    obtain ⟨i, mem, rfl⟩ := List.mem_map.mp changed
    obtain ⟨r, known, rfl⟩ := List.mem_map.mp changedRun
    obtain ⟨mem, kept⟩ := List.mem_filter.mp mem
    rw [(f.run r).id, (f.item i).run] at same
    exact tallies i mem kept r known same
  started := by
    rintro _ changed running _ changedRun same _ changedTask own
    obtain ⟨i, mem, rfl⟩ := List.mem_map.mp changed
    obtain ⟨r, known, rfl⟩ := List.mem_map.mp changedRun
    obtain ⟨t, knownTask, rfl⟩ := List.mem_map.mp changedTask
    obtain ⟨mem, kept⟩ := List.mem_filter.mp mem
    rw [(f.run r).id, (f.item i).run] at same
    rw [(f.task t).id, (f.run r).task] at own
    exact started i mem kept running r known same t knownTask own

end Revisions

/-- Canceling a task keeps every run accounted for. -/
theorem cancel (h : s.Accounted) (whole : s.Integrity) (now : Timestamp) (t : Task) :
    (s.canceling now t.id).Accounted := by
  rw [canceling_eq]
  refine h.revise (revises_canceling now t.id) ?_ ?_ ?_
  · intro r known unended
    by_cases isOpen : isOpenRunOf t.id r = true
    · rw [if_pos isOpen] at unended
      cases unended
    · rw [if_neg isOpen] at unended
      refine ⟨unended, fun i mem same => ?_⟩
      rw [Bool.not_eq_true', ← Bool.not_eq_true, List.contains_iff_mem]
      intro dropped
      obtain ⟨_, ended, same'⟩ := List.mem_map.mp dropped
      obtain ⟨q, mem, rfl⟩ := List.mem_map.mp ended
      obtain ⟨known', isOpen'⟩ := List.mem_filter.mp mem
      obtain rfl : q = r := whole.eq_of_run_id known' known (same'.trans same)
      exact isOpen isOpen'
  · intro i mem _ r known same
    have agrees := h.tallies i mem r known same
    split
    · exact ⟨agrees.queue, agrees.worker, agrees.claimed, agrees.started⟩
    · exact agrees
  · intro i mem _ running r known same u knownTask own
    have started := h.started i mem running r known same u knownTask own
    split
    · exact started
    · exact started

/-- Ending a run keeps every run accounted for, whatever becomes of its task. -/
theorem revise_endRun (h : s.Accounted) (now : Timestamp) (status : Bool) {id : Id}
    {change : Task → Task}
    (revises : Revises change (fun q => if q.id = id then Store.endRun now status q else q)
      (fun i => i))
    (started : ∀ t, (change t).startedAt = t.startedAt) :
    (s.revise change (fun q => if q.id = id then Store.endRun now status q else q)
      (fun i => !([id].contains i.run)) (fun i => i)).Accounted := by
  refine h.revise revises ?_ ?_ ?_
  · intro r known unended
    by_cases same : r.id = id
    · rw [if_pos same] at unended
      cases unended
    · rw [if_neg same] at unended
      refine ⟨unended, fun i mem eq => ?_⟩
      simp [eq, same]
  · intro i mem _ r known same
    have agrees := h.tallies i mem r known same
    split
    · exact ⟨agrees.queue, agrees.worker, agrees.claimed, agrees.started⟩
    · exact agrees
  · intro i mem _ running r known same t knownTask own
    rw [started]
    exact h.started i mem running r known same t knownTask own

/-- Claiming an item keeps every run accounted for. -/
theorem claim (h : s.Accounted) (whole : s.Integrity) (now : Timestamp) (worker : String)
    {i : StoredItem} {r : Run} (queued : i ∈ s.queue) (known : r ∈ s.runs) (run : r.id = i.run) :
    (s.claiming now worker i r).Accounted := by
  rw [claiming_eq]
  refine h.revise (revises_claiming now worker r.task r.id i.position) ?_ ?_ ?_
  · intro q knownRun unended
    refine ⟨?_, fun _ _ _ => rfl⟩
    split at unended
    · exact unended
    · exact unended
  · intro j mem _ q knownRun same
    have agrees := h.tallies j mem q knownRun same
    by_cases own : j.position = i.position
    · obtain rfl : j = i := whole.eq_of_position mem queued own
      rw [if_pos rfl, if_pos (same.trans run.symm)]
      exact ⟨agrees.queue, rfl, rfl, rfl⟩
    · have other : q.id ≠ r.id := by
        rw [same, run]
        exact fun eq => own (congrArg (·.position) (whole.eq_of_item_run mem queued eq))
      rw [if_neg own, if_neg other]
      exact agrees
  · intro j mem _ running q knownRun same t knownTask own
    by_cases claimed : j.position = i.position
    · obtain rfl : j = i := whole.eq_of_position mem queued claimed
      obtain rfl : q = r := whole.eq_of_run_id knownRun known (same.trans run.symm)
      rw [if_pos own]
      simp [startTask]
    · rw [if_neg claimed] at running
      have started := h.started j mem running q knownRun same t knownTask own
      split
      · simp [startTask]
      · exact started

/-- A **step** keeps every run accounted for. -/
theorem step (h : s.Accounted) (whole : s.Integrity) {s' : Store} (st : s.Step s') :
    s'.Accounted := by
  cases st with
  | stay => exact h
  | addUser => exact ⟨h.queued, h.tallies, h.started⟩
  | addRepository => exact ⟨h.queued, h.tallies, h.started⟩
  | addRef => exact ⟨h.queued, h.tallies, h.started⟩
  | addSubmission => exact ⟨h.queued, h.tallies, h.started⟩
  | claim now worker i r queued _ known run => exact h.claim whole now worker queued known run
  | endRun now status r =>
      rw [ending_eq]
      exact h.revise_endRun now status (revises_ending now r.id status) fun _ => rfl
  | endTask now status result r t =>
      rw [ending_changeTask_eq]
      refine h.revise_endRun now status (revises_ending_endTask now r.id status t.id result)
        fun u => ?_
      split <;> rfl
  | cancel now t => exact h.cancel whole now t

/-- Fresh runs that are added and **put on the queue** are accounted for. -/
theorem start (h : s.Accounted) {ts : List Task} {rs : List Run}
    (whole : (s.addWork ts rs).Integrity) (items : ∀ i ∈ s.queue, i.run ∈ s.runs.map (·.id))
    (tasks : ∀ r ∈ s.runs, r.task ∈ s.tasks.map (·.id)) (fresh : FreshWork ts rs) :
    ((s.addWork ts rs).queueing (rs.map fun r => ⟨r.id, r.settings.queue⟩)).Accounted := by
  have apart := List.nodup_append'.mp (List.map_append ▸ whole.runs.nodup)
  have apartTasks := List.nodup_append'.mp (List.map_append ▸ whole.tasks.nodup)
  have oldRun : ∀ i ∈ s.queue, ∀ r ∈ s.runs ++ rs, r.id = i.run → r ∈ s.runs := by
    intro i mem r known same
    refine (List.mem_append.mp known).resolve_right fun new => ?_
    have old := items i mem
    rw [← same] at old
    exact apart.2.2 old (List.mem_map_of_mem new)
  have oldTask : ∀ r ∈ s.runs, ∀ t ∈ s.tasks ++ ts, t.id = r.task → t ∈ s.tasks := by
    intro r mem t known same
    refine (List.mem_append.mp known).resolve_right fun new => ?_
    have old := tasks r mem
    rw [← same] at old
    exact apartTasks.2.2 old (List.mem_map_of_mem new)
  have newItem : ∀ i ∈ newItems s.nextPosition (rs.map fun r => ⟨r.id, r.settings.queue⟩),
      ∃ r ∈ rs, i = waitingItem i.position ⟨r.id, r.settings.queue⟩ := by
    intro i mem
    obtain ⟨new, memNew, eq, -, -⟩ := mem_newItems mem
    obtain ⟨r, memRun, rfl⟩ := List.mem_map.mp memNew
    exact ⟨r, memRun, eq⟩
  refine ⟨fun r known unended => ?_, fun i mem r known same => ?_,
    fun i mem running r known same t knownTask own => ?_⟩
  · rw [queueing, List.map_append, newItems_map_run]
    rcases List.mem_append.mp known with old | new
    · exact List.mem_append_left _ (h.queued r old unended)
    · refine List.mem_append_right _ ?_
      rw [List.map_map]
      exact List.mem_map.mpr ⟨r, new, rfl⟩
  · rcases List.mem_append.mp mem with old | new
    · exact h.tallies i old r (oldRun i old r known same) same
    · obtain ⟨q, memRun, eq⟩ := newItem i new
      rw [eq] at same ⊢
      obtain rfl : r = q := whole.eq_of_run_id known (List.mem_append_right _ memRun) same
      exact ⟨rfl, rfl, rfl, by rw [(fresh.2 r memRun).1.startedAt]; rfl⟩
  · rcases List.mem_append.mp mem with old | new
    · have knownRun := oldRun i old r known same
      exact h.started i old running r knownRun same t (oldTask r knownRun t knownTask own) own
    · obtain ⟨q, -, eq⟩ := newItem i new
      rw [eq] at running
      cases running

end Accounted

end Store

/-- An operation that adds no work keeps every run accounted for. -/
theorem Operation.Ends.accounted {α : Type} {op : Operation α} {s s' : Store} {tr : Trace}
    {res : Except OperationError α} {Q : HostCall → Prop} (h : op.Ends s tr res s')
    (quiet : op.Calls StoreCall.AddsNoWork Q) (whole : s.Integrity) (holds : s.Accounted) :
    s'.Accounted :=
  (h.keeps (I := fun s => s.Integrity ∧ s.Accounted)
    (fun call quiet now _ holds => ⟨call.run_integrity holds.1 now,
      holds.2.step holds.1 (call.run_step holds.1 quiet now)⟩) quiet ⟨whole, holds⟩).2

end Dispatch
