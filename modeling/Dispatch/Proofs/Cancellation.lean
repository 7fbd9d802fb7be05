import Dispatch.Proofs.Coherence
import Dispatch.Proofs.Guarantee

/-!
# What cancellation does

Tasks are canceled one after the other. Where the store does not fail, each of them that has not
finished is canceled with its open runs, which leave the queue; everything else stays as it is.

## Main definitions

* `Store.Cancels`: some tasks have been canceled, and nothing else has happened.
* `Store.Unfinished`: unfinished tasks, each of them once.
* `Cancellation.Counts`: the given tasks have been canceled, and the answer is how many they are.

## Main results

* `Store.Cancels.tasks_of_mem`, `Store.Cancels.runs_of_mem` and others: the records after that.
* `Cancellation.tasks_ensures`: unfinished tasks are canceled one after the other.
* `Cancellation.ref_ensures`: the unfinished work for a ref is canceled, unless it is the default
  branch.
-/

namespace Dispatch

namespace Store

variable {s s' : Store}

/-! ### One task -/

section Canceling

variable {now : Timestamp} {id : Id}

theorem canceling_tasks_of_ne {t : Task} (known : t ∈ s.tasks) (other : t.id ≠ id) :
    t ∈ (s.canceling now id).tasks := by
  rw [canceling_eq]
  exact List.mem_map.mpr ⟨t, known, if_neg other⟩

theorem canceling_tasks_of_eq {t : Task} (known : t ∈ s.tasks) (own : t.id = id) :
    endCanceled now t ∈ (s.canceling now id).tasks := by
  rw [canceling_eq]
  exact List.mem_map.mpr ⟨t, known, if_pos own⟩

theorem canceling_tasks_map_id : (s.canceling now id).tasks.map (·.id) = s.tasks.map (·.id) := by
  have same := (revises_canceling now id).task
  rw [canceling_eq]
  exact map_map_of_same (fun t => (same t).id) s.tasks

theorem canceling_runs_of_ne {r : Run} (known : r ∈ s.runs)
    (other : r.task ≠ id ∨ r.status ≠ none) : r ∈ (s.canceling now id).runs := by
  rw [canceling_eq]
  refine List.mem_map.mpr ⟨r, known, if_neg ?_⟩
  simp only [isOpenRunOf, Bool.and_eq_true, decide_eq_true_eq, Option.isNone_iff_eq_none]
  exact fun h => other.elim (· h.1) (· h.2)

theorem canceling_runs_of_eq {r : Run} (known : r ∈ s.runs) (own : r.task = id)
    (unended : r.status = none) : endRun now false r ∈ (s.canceling now id).runs := by
  rw [canceling_eq]
  refine List.mem_map.mpr ⟨r, known, if_pos ?_⟩
  simp [isOpenRunOf, own, unended]

theorem canceling_runs_map_id : (s.canceling now id).runs.map (·.id) = s.runs.map (·.id) := by
  have same := (revises_canceling now id).run
  rw [canceling_eq]
  exact map_map_of_same (fun r => (same r).id) s.runs

/-- A run keeps its identifier and its task. -/
theorem exists_of_mem_canceling_runs {r' : Run} (h : r' ∈ (s.canceling now id).runs) :
    ∃ r ∈ s.runs, r'.id = r.id ∧ r'.task = r.task := by
  rw [canceling_eq] at h
  obtain ⟨r, known, rfl⟩ := List.mem_map.mp h
  have same := (revises_canceling now id).run r
  exact ⟨r, known, same.id, same.task⟩

theorem mem_canceling_queue {i : StoredItem} :
    i ∈ (s.canceling now id).queue ↔
      i ∈ s.queue ∧ ∀ r ∈ s.runs, r.task = id → r.status = none → r.id ≠ i.run := by
  rw [canceling_eq, revise, List.map_id, List.mem_filter]
  refine and_congr_right fun _ => ?_
  rw [Bool.not_eq_true', ← Bool.not_eq_true, List.contains_iff_mem]
  constructor
  · intro kept r known own unended same
    have isOpen : isOpenRunOf id r = true := by simp [isOpenRunOf, own, unended]
    have ended := List.mem_map_of_mem (f := endRun now false) (List.mem_filter.mpr ⟨known, isOpen⟩)
    exact kept (List.mem_map.mpr ⟨endRun now false r, ended, same⟩)
  · intro kept dropped
    obtain ⟨_, ended, same⟩ := List.mem_map.mp dropped
    obtain ⟨r, mem, rfl⟩ := List.mem_map.mp ended
    obtain ⟨known, isOpen⟩ := List.mem_filter.mp mem
    simp only [isOpenRunOf, Bool.and_eq_true, decide_eq_true_eq,
      Option.isNone_iff_eq_none] at isOpen
    exact kept r known isOpen.1 isOpen.2 same

end Canceling

/-! ### One task after the other -/

/-- The given tasks have been **canceled** one after the other, and nothing else has happened. -/
inductive Cancels : List Id → Store → Store → Prop
  | nil (s : Store) : Cancels [] s s
  | cons {s s' : Store} {t : Task} {ids : List Id} (now : Timestamp) :
      t ∈ s.tasks → t.isFinished = false → t.id ∉ ids → Cancels ids (s.canceling now t.id) s' →
      Cancels (t.id :: ids) s s'

namespace Cancels

variable {ids : List Id}

theorem integrity (h : Cancels ids s s') (whole : s.Integrity) : s'.Integrity := by
  induction h with
  | nil => exact whole
  | cons now known unfinished _ _ ih => exact ih (whole.step (.cancel now _ known unfinished))

/-- Other records are not touched. -/
theorem others (h : Cancels ids s s') : s'.users = s.users ∧ s'.repositories = s.repositories ∧
    s'.refs = s.refs ∧ s'.submissions = s.submissions ∧ s'.nextPosition = s.nextPosition := by
  induction h with
  | nil => exact ⟨rfl, rfl, rfl, rfl, rfl⟩
  | cons now _ _ _ _ ih => exact ih

theorem tasks_map_id (h : Cancels ids s s') : s'.tasks.map (·.id) = s.tasks.map (·.id) := by
  induction h with
  | nil => rfl
  | cons now _ _ _ _ ih => exact ih.trans canceling_tasks_map_id

theorem runs_map_id (h : Cancels ids s s') : s'.runs.map (·.id) = s.runs.map (·.id) := by
  induction h with
  | nil => rfl
  | cons now _ _ _ _ ih => exact ih.trans canceling_runs_map_id

/-- Another task stays **as it was**. -/
theorem tasks_of_notMem (h : Cancels ids s s') {t : Task} (known : t ∈ s.tasks)
    (other : t.id ∉ ids) : t ∈ s'.tasks := by
  induction h with
  | nil => exact known
  | cons now _ _ _ _ ih =>
      rw [List.mem_cons, not_or] at other
      exact ih (canceling_tasks_of_ne known other.1) other.2

/-- A task among the given ones has been **canceled**. -/
theorem tasks_of_mem (h : Cancels ids s s') {t : Task} (known : t ∈ s.tasks) (own : t.id ∈ ids) :
    ∃ now, endCanceled now t ∈ s'.tasks := by
  induction h with
  | nil => cases own
  | @cons s s' u ids now _ _ fresh rest ih =>
      by_cases same : t.id = u.id
      · refine ⟨now, rest.tasks_of_notMem (canceling_tasks_of_eq known same) ?_⟩
        change t.id ∉ ids
        rw [same]
        exact fresh
      · exact ih (canceling_tasks_of_ne known same) ((List.mem_cons.mp own).resolve_left same)

/-- What the tasks are **afterwards**: those that were not among the given ones as before, and the
others canceled. -/
theorem task_cases (h : Cancels ids s s') (whole : s.Integrity) {t : Task} (mem : t ∈ s'.tasks) :
    t ∈ s.tasks ∧ t.id ∉ ids ∨ ∃ u ∈ s.tasks, u.id ∈ ids ∧ ∃ now, t = endCanceled now u := by
  have known : t.id ∈ s.tasks.map (·.id) := by
    rw [← h.tasks_map_id]
    exact List.mem_map_of_mem mem
  obtain ⟨u, knownTask, same⟩ := List.mem_map.mp known
  by_cases own : u.id ∈ ids
  · obtain ⟨now, canceled⟩ := h.tasks_of_mem knownTask own
    refine .inr ⟨u, knownTask, own, now, ?_⟩
    exact (h.integrity whole).eq_of_task_id mem canceled same.symm
  · have kept := h.tasks_of_notMem knownTask own
    obtain rfl := (h.integrity whole).eq_of_task_id mem kept same.symm
    exact .inl ⟨knownTask, own⟩

/-- A run of another task, or one that has a status, stays **as it was**. -/
theorem runs_of_notMem (h : Cancels ids s s') {r : Run} (known : r ∈ s.runs)
    (other : r.task ∉ ids ∨ r.status ≠ none) : r ∈ s'.runs := by
  induction h with
  | nil => exact known
  | @cons s s' u ids now _ _ _ _ ih =>
      rw [List.mem_cons, not_or] at other
      have kept : r ∈ (s.canceling now u.id).runs :=
        canceling_runs_of_ne known (other.imp_left (·.1))
      exact ih kept (other.imp_left (·.2))

/-- An open run of a given task has **failed**. -/
theorem runs_of_mem (h : Cancels ids s s') {r : Run} (known : r ∈ s.runs) (own : r.task ∈ ids)
    (unended : r.status = none) : ∃ now, endRun now false r ∈ s'.runs := by
  induction h with
  | nil => cases own
  | @cons s s' u ids now _ _ _ rest ih =>
      by_cases same : r.task = u.id
      · have failed : endRun now false r ∈ (s.canceling now u.id).runs :=
          canceling_runs_of_eq known same unended
        refine ⟨now, rest.runs_of_notMem failed (.inr ?_)⟩
        simp [endRun]
      · have kept : r ∈ (s.canceling now u.id).runs := canceling_runs_of_ne known (.inl same)
        exact ih kept ((List.mem_cons.mp own).resolve_left same)

theorem queue_subset (h : Cancels ids s s') : ∀ i ∈ s'.queue, i ∈ s.queue := by
  induction h with
  | nil => exact fun _ mem => mem
  | cons now _ _ _ _ ih => exact fun i mem => (mem_canceling_queue.mp (ih i mem)).1

/-- The open runs of the given tasks have **left the queue**. -/
theorem queue_of_mem (h : Cancels ids s s') {r : Run} (known : r ∈ s.runs) (own : r.task ∈ ids)
    (unended : r.status = none) : ∀ i ∈ s'.queue, i.run ≠ r.id := by
  induction h with
  | nil => cases own
  | @cons s s' u ids now _ _ _ rest ih =>
      by_cases same : r.task = u.id
      · intro i mem
        obtain ⟨-, left⟩ := mem_canceling_queue.mp (rest.queue_subset i mem)
        exact (left r known same unended).symm
      · have kept : r ∈ (s.canceling now u.id).runs := canceling_runs_of_ne known (.inl same)
        exact ih kept ((List.mem_cons.mp own).resolve_left same)

/-- The items of runs of other tasks **stay on the queue**. -/
theorem queue_of_notMem (h : Cancels ids s s') {i : StoredItem} (queued : i ∈ s.queue)
    (other : ∀ r ∈ s.runs, r.id = i.run → r.task ∉ ids) : i ∈ s'.queue := by
  induction h with
  | nil => exact queued
  | cons now _ _ _ _ ih =>
      refine ih (mem_canceling_queue.mpr ⟨queued, fun r known own _ same => ?_⟩) ?_
      · exact other r known same (List.mem_cons.mpr (.inl own))
      · intro r' mem same
        obtain ⟨r, known, id, task⟩ := exists_of_mem_canceling_runs mem
        rw [task]
        exact fun later => other r known (id.symm.trans same) (List.mem_cons_of_mem _ later)

end Cancels

/-- Unfinished tasks, each of them **once**. -/
structure Unfinished (s : Store) (l : List Task) : Prop where
  known : ∀ t ∈ l, t ∈ s.tasks
  unfinished : ∀ t ∈ l, t.isFinished = false
  distinct : (l.map (·.id)).Nodup

namespace Unfinished

variable {t : Task} {rest : List Task}

theorem filter {l : List Task} (h : s.Unfinished l) (p : Task → Bool) :
    s.Unfinished (l.filter p) where
  known t mem := h.known t (List.mem_of_mem_filter mem)
  unfinished t mem := h.unfinished t (List.mem_of_mem_filter mem)
  distinct := h.distinct.sublist (List.filter_sublist.map _)

theorem fresh (h : s.Unfinished (t :: rest)) : t.id ∉ rest.map (·.id) :=
  (List.nodup_cons.mp h.distinct).1

theorem tail (h : s.Unfinished (t :: rest)) : s.Unfinished rest where
  known u mem := h.known u (List.mem_cons_of_mem _ mem)
  unfinished u mem := h.unfinished u (List.mem_cons_of_mem _ mem)
  distinct := (List.nodup_cons.mp h.distinct).2

/-- The others are unfinished after the first one has been canceled. -/
theorem canceling (h : s.Unfinished (t :: rest)) (now : Timestamp) :
    (s.canceling now t.id).Unfinished rest where
  known u mem := by
    refine canceling_tasks_of_ne (h.tail.known u mem) fun same => h.fresh ?_
    exact List.mem_map.mpr ⟨u, mem, same⟩
  unfinished := h.tail.unfinished
  distinct := h.tail.distinct

end Unfinished

end Store

/-! ### The operations -/

namespace Cancellation

open Operation

variable {s : Store}

/-- Notices are given without fail and leave the store alone. -/
theorem ensures_notices {notice : Run → Notification} {runs : List Run}
    {post : Except OperationError PUnit → Store → Prop} :
    Ensures post (runs.forM fun run => notify (notice run)) s ↔ post (.ok ⟨⟩) s := by
  induction runs with
  | nil => exact ensures_pure
  | cons run rest ih => exact ih

/-- What canceling a **task** comes to is up to the store alone; what is posted about it does not
matter. -/
theorem ensures_task {id : Id} {post : Except OperationError (List Run) → Store → Prop} :
    (task id).Ensures post s ↔ (store (.cancelTask id)).Ensures post s := by
  rw [task, ensures_bind]
  refine ensures_congr fun res s' => ?_
  cases res with
  | error e => exact Iff.rfl
  | ok runs =>
      dsimp only
      rw [ensures_bind, ensures_tryStore]
      simp only [StoreCall.run, StoreM.look_run]
      cases s'.target id with
      | error e => exact forall_const Timestamp
      | ok target =>
          cases owner : target.owner with
          | none =>
              simp only [owner]
              exact forall_const Timestamp
          | some user =>
              simp only [owner, ensures_bind, ensures_notices]
              exact forall_const Timestamp

/-- An unfinished task **is canceled**. -/
theorem task_ensures {t : Task} (whole : s.Integrity) (known : t ∈ s.tasks)
    (unfinished : t.isFinished = false) : (task t.id).Ensures (fun res s' =>
      ∃ now, res = .ok (s.canceledRuns now t.id) ∧ s' = s.canceling now t.id) s := by
  have found : s.task? t.id = some t := whole.task?_eq_some.mpr ⟨known, rfl⟩
  refine ensures_task.mpr ((ensures_store (.cancelTask t.id)).mpr fun now => ?_)
  rw [StoreCall.run, Store.cancelTask_ok found unfinished now]
  exact ⟨now, rfl, rfl⟩

/-- The given tasks have been canceled, and the answer is **how many** they are. -/
def Counts (s : Store) (ids : List Id) (res : Except OperationError Nat) (s' : Store) : Prop :=
  res = .ok ids.length ∧ s.Cancels ids s'

/-- The **first of several** unfinished tasks is canceled and counted. -/
theorem attempt_ensures {t : Task} {rest : List Task} {ids : List Id} {first : Operation (List Run)}
    {op : Operation Nat} {f : Except OperationError (List Run) → Operation Nat}
    (waiting : s.Unfinished (t :: rest)) (fresh : t.id ∉ ids)
    (canceled : first.Ensures (fun res s' =>
      ∃ now, res = .ok (s.canceledRuns now t.id) ∧ s' = s.canceling now t.id) s)
    (goesOn : ∀ runs, f (.ok runs) = do return (← op) + 1)
    (later : ∀ now, op.Ensures (Counts (s.canceling now t.id) ids) (s.canceling now t.id)) :
    (attempt first >>= f).Ensures (Counts s (t.id :: ids)) s := by
  have known : t ∈ s.tasks := waiting.known t List.mem_cons_self
  have unfinished : t.isFinished = false := waiting.unfinished t List.mem_cons_self
  rw [ensures_bind, ensures_attempt]
  refine canceled.mono ?_
  rintro _ _ ⟨now, rfl, rfl⟩
  dsimp only
  rw [goesOn, ensures_bind]
  refine (later now).mono ?_
  rintro _ s' ⟨rfl, cancels⟩
  exact ⟨rfl, .cons now known unfinished fresh cancels⟩

/-- Unfinished tasks **are canceled** one after the other. -/
theorem tasks_ensures {l : List Task} (whole : s.Integrity) (waiting : s.Unfinished l) :
    (tasks l).Ensures (Counts s (l.map (·.id))) s := by
  induction l generalizing s with
  | nil => exact ⟨rfl, .nil s⟩
  | cons t rest ih =>
      have known := waiting.known t List.mem_cons_self
      have unfinished := waiting.unfinished t List.mem_cons_self
      rw [tasks]
      refine attempt_ensures waiting waiting.fresh (task_ensures whole known unfinished)
        (fun _ => rfl) fun now => ?_
      exact ih (whole.step (.cancel now t known unfinished)) (waiting.canceling now)

/-- The open tasks for a ref are unfinished. -/
theorem openForRef_unfinished (whole : s.Integrity) (repository : Id) (name : String) :
    s.Unfinished (s.openForRef repository name) where
  known t mem := List.mem_of_mem_filter mem
  unfinished t mem := by
    have isOpen := (List.mem_filter.mp mem).2
    simp only [Bool.and_eq_true, Bool.not_eq_true'] at isOpen
    exact isOpen.1.2
  distinct := whole.tasks.nodup.sublist (List.filter_sublist.map _)

/-- The unfinished work for a **ref** is canceled, unless it is the default branch. -/
theorem ref_ensures (whole : s.Integrity) (repository : Id) (name main : String) :
    (ref repository name main).Ensures (Counts s
      (if name = main then [] else (s.openForRef repository name).map (·.id))) s := by
  by_cases same : name = main
  · rw [ref, if_pos same, if_pos same]
    exact ⟨rfl, .nil s⟩
  · rw [ref, if_neg same, if_neg same]
    change (store (.openForRef repository name) >>= tasks).Ensures _ s
    refine ensures_bind.mpr ((ensures_store _).mpr fun now => ?_)
    exact tasks_ensures whole (openForRef_unfinished whole repository name)

end Cancellation

end Dispatch
