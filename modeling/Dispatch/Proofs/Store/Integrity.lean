import Dispatch.Store.Call
import Mathlib.Data.List.Nodup

/-!
# The integrity of the store

Every store that has only been changed by its own operations has records that are numbered in
the order in which they were added, whose references lead to records that exist, that are unique
where they have to be, and that pass the checks made when they were stored.

## Main definitions

* `Id.Numbered`: the identifiers of a table count its records.
* `Store.Integrity`: what holds of every store at any time.

## Main results

* `Store.Integrity.run?_eq_some`, `Store.Integrity.task?_eq_some` and others: looking a record up
  by its identifier finds exactly the record with it.
* `Store.Integrity.eq_of_run_id` and others: an identifier belongs to one record.
-/

namespace Dispatch

namespace Id

/-- The first identifiers of a kind that the store issues. -/
def series (kind : RecordKind) (n : Nat) : List Id :=
  (List.range n).map fun i => .issued kind (i + 1)

/-- The identifiers **count the records** of a kind, in the order in which they were added. -/
def Numbered (kind : RecordKind) (ids : List Id) : Prop := ids = series kind ids.length

theorem numbered_nil (kind : RecordKind) : Numbered kind [] := rfl

theorem Numbered.mem_iff {kind : RecordKind} {ids : List Id} (h : Numbered kind ids) {id : Id} :
    id ∈ ids ↔ ∃ i < ids.length, id = .issued kind (i + 1) := by
  rw [h, series]
  simp only [List.mem_map, List.mem_range, List.length_map, List.length_range]
  exact ⟨fun ⟨i, lt, eq⟩ => ⟨i, lt, eq.symm⟩, fun ⟨i, lt, eq⟩ => ⟨i, lt, eq.symm⟩⟩

theorem Numbered.nodup {kind : RecordKind} {ids : List Id} (h : Numbered kind ids) :
    ids.Nodup := by
  rw [h, series]
  refine List.Nodup.map ?_ List.nodup_range
  intro i j eq
  injection eq with _ eq
  omega

/-- The next identifier of a kind has not been issued. -/
theorem Numbered.next_notMem {kind : RecordKind} {ids : List Id} (h : Numbered kind ids) :
    .issued kind (ids.length + 1) ∉ ids := by
  intro mem
  obtain ⟨i, lt, eq⟩ := h.mem_iff.mp mem
  injection eq with _ eq
  omega

/-- A record more gets the next identifier. -/
theorem Numbered.append {kind : RecordKind} {ids : List Id} {id : Id} (h : Numbered kind ids)
    (next : id = .issued kind (ids.length + 1)) : Numbered kind (ids ++ [id]) := by
  rw [Numbered, List.length_append, List.length_singleton, series, List.range_succ,
    List.map_append, List.map_singleton, ← series, ← h, next]

end Id

namespace Store

/-- The **integrity** of a store. -/
structure Integrity (s : Store) : Prop where
  users : Id.Numbered .user (s.users.map (·.id))
  repositories : Id.Numbered .repository (s.repositories.map (·.id))
  refs : Id.Numbered .gitRef (s.refs.map (·.id))
  submissions : Id.Numbered .submission (s.submissions.map (·.id))
  tasks : Id.Numbered .task (s.tasks.map (·.id))
  runs : Id.Numbered .run (s.runs.map (·.id))
  usernames : (s.users.map (·.username)).Nodup
  repositoryNames : (s.repositories.map (·.name)).Nodup
  /-- There is one ref for each commit of a repository. -/
  commits : (s.refs.map fun r => (r.repository, r.sha)).Nodup
  refRepository : ∀ r ∈ s.refs, r.repository ∈ s.repositories.map (·.id)
  submissionBase : ∀ x ∈ s.submissions, x.base ∈ s.refs.map (·.id)
  submissionHead : ∀ x ∈ s.submissions, ∀ head, x.head = some head → head ∈ s.refs.map (·.id)
  taskSubmission : ∀ t ∈ s.tasks, t.submission ∈ s.submissions.map (·.id)
  taskRepository : ∀ t ∈ s.tasks, t.repository ∈ s.repositories.map (·.id)
  runTask : ∀ r ∈ s.runs, r.task ∈ s.tasks.map (·.id)
  itemRun : ∀ i ∈ s.queue, i.run ∈ s.runs.map (·.id)
  /-- No run is on the queue twice. -/
  itemRuns : (s.queue.map (·.run)).Nodup
  positions : (s.queue.map (·.position)).Pairwise (· < ·)
  nextPosition : ∀ i ∈ s.queue, i.position < s.nextPosition
  repositoryName : ∀ r ∈ s.repositories, Repository.isName r.name = true
  repositorySecret : ∀ r ∈ s.repositories, r.disabled = true → r.hookSecret = none
  refValid : ∀ r ∈ s.refs, Ref.validate r.name r.sha = .ok ()
  taskValid : ∀ t ∈ s.tasks, t.settings.validate = .ok ()
  runValid : ∀ r ∈ s.runs, NewRun.validate ⟨r.task, r.name, r.settings⟩ = .ok ()
  itemQueue : ∀ i ∈ s.queue, i.queue ≠ ""

/-- The store without records has integrity. -/
theorem integrity_empty : Integrity empty where
  users := Id.numbered_nil _
  repositories := Id.numbered_nil _
  refs := Id.numbered_nil _
  submissions := Id.numbered_nil _
  tasks := Id.numbered_nil _
  runs := Id.numbered_nil _
  usernames := .nil
  repositoryNames := .nil
  commits := .nil
  refRepository := by simp [empty]
  submissionBase := by simp [empty]
  submissionHead := by simp [empty]
  taskSubmission := by simp [empty]
  taskRepository := by simp [empty]
  runTask := by simp [empty]
  itemRun := by simp [empty]
  itemRuns := .nil
  positions := .nil
  nextPosition := by simp [empty]
  repositoryName := by simp [empty]
  repositorySecret := by simp [empty]
  refValid := by simp [empty]
  taskValid := by simp [empty]
  runValid := by simp [empty]
  itemQueue := by simp [empty]

/-! ### Records by their keys -/

/-- Among records with distinct keys, a search by key finds the record with the key. -/
theorem find?_key_eq_some {α κ : Type} [DecidableEq κ] {key : α → κ} {l : List α}
    (distinct : (l.map key).Nodup) {k : κ} {a : α} :
    l.find? (fun x => key x = k) = some a ↔ a ∈ l ∧ key a = k := by
  induction l with
  | nil => simp
  | cons b l ih =>
      rw [List.map_cons, List.nodup_cons] at distinct
      rw [List.find?_cons]
      by_cases eq : key b = k
      · simp only [eq, decide_true, Option.some.injEq, List.mem_cons]
        constructor
        · rintro rfl
          exact ⟨.inl rfl, eq⟩
        · rintro ⟨rfl | mem, same⟩
          · rfl
          · exact absurd (List.mem_map.mpr ⟨a, mem, same.trans eq.symm⟩) distinct.1
      · simp only [eq, decide_false, ih distinct.2, List.mem_cons]
        constructor
        · rintro ⟨mem, same⟩
          exact ⟨.inr mem, same⟩
        · rintro ⟨rfl | mem, same⟩
          · exact absurd same eq
          · exact ⟨mem, same⟩

/-- Records with distinct keys are equal if their keys are. -/
theorem eq_of_key {α κ : Type} {key : α → κ} {l : List α} (distinct : (l.map key).Nodup)
    {a b : α} (ha : a ∈ l) (hb : b ∈ l) (same : key a = key b) : a = b :=
  List.inj_on_of_nodup_map distinct ha hb same

namespace Integrity

variable {s : Store}

theorem user?_eq_some (h : s.Integrity) {id : Id} {u : User} :
    s.user? id = some u ↔ u ∈ s.users ∧ u.id = id :=
  find?_key_eq_some h.users.nodup

theorem repository?_eq_some (h : s.Integrity) {id : Id} {r : Repository} :
    s.repository? id = some r ↔ r ∈ s.repositories ∧ r.id = id :=
  find?_key_eq_some h.repositories.nodup

theorem ref?_eq_some (h : s.Integrity) {id : Id} {r : Ref} :
    s.ref? id = some r ↔ r ∈ s.refs ∧ r.id = id :=
  find?_key_eq_some h.refs.nodup

theorem submission?_eq_some (h : s.Integrity) {id : Id} {x : StoredSubmission} :
    s.submission? id = some x ↔ x ∈ s.submissions ∧ x.id = id :=
  find?_key_eq_some h.submissions.nodup

theorem task?_eq_some (h : s.Integrity) {id : Id} {t : Task} :
    s.task? id = some t ↔ t ∈ s.tasks ∧ t.id = id :=
  find?_key_eq_some h.tasks.nodup

theorem run?_eq_some (h : s.Integrity) {id : Id} {r : Run} :
    s.run? id = some r ↔ r ∈ s.runs ∧ r.id = id :=
  find?_key_eq_some h.runs.nodup

theorem eq_of_task_id (h : s.Integrity) {t u : Task} (ht : t ∈ s.tasks) (hu : u ∈ s.tasks)
    (same : t.id = u.id) : t = u :=
  eq_of_key h.tasks.nodup ht hu same

theorem eq_of_run_id (h : s.Integrity) {r q : Run} (hr : r ∈ s.runs) (hq : q ∈ s.runs)
    (same : r.id = q.id) : r = q :=
  eq_of_key h.runs.nodup hr hq same

theorem eq_of_item_run (h : s.Integrity) {i j : StoredItem} (hi : i ∈ s.queue)
    (hj : j ∈ s.queue) (same : i.run = j.run) : i = j :=
  eq_of_key h.itemRuns hi hj same

theorem eq_of_position (h : s.Integrity) {i j : StoredItem} (hi : i ∈ s.queue)
    (hj : j ∈ s.queue) (same : i.position = j.position) : i = j :=
  eq_of_key (h.positions.imp Nat.ne_of_lt) hi hj same

/-- Every run belongs to a task that exists. -/
theorem exists_task (h : s.Integrity) {r : Run} (hr : r ∈ s.runs) :
    ∃ t ∈ s.tasks, t.id = r.task :=
  List.mem_map.mp (h.runTask r hr)

/-- Every queue item is of a run that exists. -/
theorem exists_run (h : s.Integrity) {i : StoredItem} (hi : i ∈ s.queue) :
    ∃ r ∈ s.runs, r.id = i.run :=
  List.mem_map.mp (h.itemRun i hi)

end Integrity

end Store

end Dispatch
