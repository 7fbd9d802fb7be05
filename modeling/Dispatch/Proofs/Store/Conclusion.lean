import Dispatch.Proofs.Coherence

/-!
# Conclusions

An open run of an unfinished task gets a status. It leaves the queue then, and with the last open
run the task concludes, with what the statuses of its runs come to.

## Main definitions

* `Task.concluded`: a task with such runs, concluded if none of them is open.
* `Store.concluding`: the store in which a run has got a status.

## Main results

* `Store.Integrity.finishRun_open`: recording a status of an open run of an unfinished task.
-/

namespace Dispatch

/-- A task with such runs: if none of them is open, it has **concluded**, with success if all of
them succeeded. -/
def Task.concluded (now : Timestamp) (runs : List Run) (t : Task) : Task :=
  if ∀ r ∈ runs, r.status ≠ none then
    { t with status := some (runs.all (·.status = some true)), finishedAt := some now }
  else t

namespace Store

/-- The store in which a run has got a **status**: it has left the queue, and its task has concluded
if that was the last open run. All else is as it was. -/
def concluding (s : Store) (now : Timestamp) (r : Run) (status : Bool) : Store :=
  let runs := s.runs.map fun q => if q.id = r.id then endRun now status q else q
  { s with
    tasks := s.tasks.map fun t => if t.id = r.task then
      t.concluded now (runs.filter (·.task = t.id)) else t
    runs
    queue := s.queue.filter fun i => i.run ≠ r.id }

variable {s : Store}

/-- The task of the run concludes by what its runs are afterwards. -/
theorem concluding_tasks (s : Store) (now : Timestamp) (r : Run) (status : Bool) :
    (s.concluding now r status).tasks = s.tasks.map fun t => if t.id = r.task then
      t.concluded now ((s.concluding now r status).runsOf t.id) else t := rfl

/-- A run gets its status and leaves the queue, whatever becomes of its task. -/
theorem ending_eq_concluding (s : Store) (now : Timestamp) (r : Run) (status : Bool) :
    s.ending now r.id status = { s.concluding now r status with tasks := s.tasks } := by
  simp [ending, concluding, changeRun, mapRuns, dropItems]

/-- A task concludes with what the statuses of its runs **sum up** to. -/
theorem concluded_eq (now : Timestamp) (runs : List Run) (t : Task) :
    t.concluded now runs = (rolledUp? runs).elim t fun result => endTask now result t := by
  have all : runs.all (·.status.isSome) = true ↔ ∀ r ∈ runs, r.status ≠ none := by
    simp only [List.all_eq_true, Option.isSome_iff_ne_none]
  by_cases closed : ∀ r ∈ runs, r.status ≠ none
  · rw [Task.concluded, if_pos closed, rolledUp?, if_pos (all.mpr closed)]
    rfl
  · rw [Task.concluded, if_neg closed, rolledUp?, if_neg fun h => closed (all.mp h)]
    rfl

/-- Recording a status of an **open run** of an unfinished task. -/
theorem Integrity.finishRun_open (whole : s.Integrity) {r : Run} {t : Task} (known : r ∈ s.runs)
    (unended : r.status = none) (knownTask : t ∈ s.tasks) (own : t.id = r.task)
    (unfinished : t.isFinished = false) (now : Timestamp) (status : Bool) :
    ∃ result, finishRun now r.id status s =
      (.ok ⟨endRun now status r, result⟩, s.concluding now r status) := by
  have found : s.run? r.id = some r := whole.run?_eq_some.mpr ⟨known, rfl⟩
  have foundTask : s.task? r.task = some t := whole.task?_eq_some.mpr ⟨knownTask, own⟩
  have runs (id : Id) : (s.concluding now r status).runsOf id =
      (s.ending now r.id status).runsOf id := by rw [ending_eq_concluding]; rfl
  rcases finishRun_cases now r.id status s with ⟨ended, -⟩ | ⟨r', found', -, done⟩
  · have := ended r found
    rw [unended] at this
    cases this
  obtain rfl : r = r' := Option.some.inj (found.symm.trans found')
  rcases done with ⟨missing, -⟩ | ⟨t', foundTask', others, run⟩ | ⟨t', result, -, -, sums, run⟩
  · cases missing.symm.trans foundTask
  · obtain rfl : t = t' := Option.some.inj (foundTask.symm.trans foundTask')
    have stays : (s.concluding now r status).tasks = s.tasks := by
      rw [concluding_tasks]
      refine map_eq_self fun u _ => ?_
      split
      · next own' =>
          rw [own', runs, concluded_eq, others.resolve_left (by simp [unfinished])]
          rfl
      · rfl
    exact ⟨none, run.trans (Prod.ext rfl (by rw [ending_eq_concluding, ← stays]))⟩
  · have changes : (s.concluding now r status).tasks =
        s.tasks.map fun u => if u.id = r.task then endTask now result u else u := by
      rw [concluding_tasks]
      refine List.map_congr_left fun u _ => ?_
      split
      · next own' =>
          rw [own', runs, concluded_eq, sums]
          rfl
      · rfl
    exact ⟨some result, run.trans (Prod.ext rfl (by
      rw [ending_eq_concluding, changeTask, ← changes]))⟩

end Store

end Dispatch
