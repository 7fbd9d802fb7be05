import Dispatch.Proofs.Cascade
import Dispatch.Proofs.History
import Dispatch.Proofs.Queue.Claims
import Dispatch.Proofs.Store.Conclusion

/-!
# What asking for work comes to

A worker asks for work on a queue. Where the store does not fail, it gets the oldest item that
waits there, or the answer that none does. An item whose repository has no owner cannot be reported
on: it is taken off the queue, and its run fails.

## Main definitions

* `Store.Oldest`: the item that has waited longest on a queue.
* `Store.handingOut`, `Store.turningDown`: the stores in which it has been handed out, or not.
* `Worker.Outcome`: how asking for work under a name ends in a store that does not fail.
* `Worker.ServesNext`: what asking for work comes to there.

## Main results

* `Store.Integrity.waiting?_eq_some`: the next item to be claimed is the one that has waited
  longest.
* `Worker.next_outcome`: what asking for work comes to after any calls to the store.
-/

namespace Dispatch

namespace Store

/-- The item that has **waited longest** on a queue. -/
structure Oldest (s : Store) (queue : String) (i : StoredItem) : Prop where
  queued : i ∈ s.queue
  own : i.queue = queue
  waits : i.running = false
  first : ∀ j ∈ s.queue, j.queue = queue → j.running = false → i.position ≤ j.position

variable {s s' : Store} {queue worker : String} {i : StoredItem}

/-- The next item to be claimed is the one that has waited longest. -/
theorem Integrity.waiting?_eq_some (whole : s.Integrity) :
    s.waiting? queue = some i ↔ s.Oldest queue i := by
  have ascending : (s.waitingOn queue).Pairwise fun a b => a.position < b.position :=
    (List.pairwise_map.mp whole.positions).sublist List.filter_sublist
  rw [waiting?_eq_head?, List.head?_eq_some_iff]
  constructor
  · rintro ⟨rest, eq⟩
    rw [eq, List.pairwise_cons] at ascending
    obtain ⟨queued, own, waits⟩ := mem_waitingOn.mp (eq ▸ List.mem_cons_self)
    refine ⟨queued, own, waits, fun j known own' waits' => ?_⟩
    have mem : j ∈ i :: rest := eq ▸ mem_waitingOn.mpr ⟨known, own', waits'⟩
    rcases List.mem_cons.mp mem with rfl | later
    · exact Nat.le_refl _
    · exact Nat.le_of_lt (ascending.1 j later)
  · rintro ⟨queued, own, waits, first⟩
    cases eq : s.waitingOn queue with
    | nil => exact absurd (eq ▸ mem_waitingOn.mpr ⟨queued, own, waits⟩) List.not_mem_nil
    | cons j rest =>
        obtain ⟨known, own', waits'⟩ := mem_waitingOn.mp (eq ▸ List.mem_cons_self)
        have mem : i ∈ j :: rest := eq ▸ mem_waitingOn.mpr ⟨queued, own, waits⟩
        rw [eq, List.pairwise_cons] at ascending
        rcases List.mem_cons.mp mem with rfl | later
        · exact ⟨rest, rfl⟩
        · exact absurd (ascending.1 i later) (Nat.not_lt.mpr (first j known own' waits'))

/-- An item with the run that it is for and the task of the run. -/
structure IsFor (s : Store) (i : StoredItem) (r : Run) (t : Task) : Prop where
  run : r ∈ s.runs
  same : r.id = i.run
  task : t ∈ s.tasks
  own : t.id = r.task

/-- The repository of a task has an **owner**, who is a user. -/
def HasOwner (s : Store) (t : Task) : Prop :=
  ∃ repository ∈ s.repositories, repository.id = t.repository ∧
    ∃ owner ∈ s.users, repository.owner = some owner.id

/-- The store in which an item has been **handed out** to a worker: it has been claimed, its run has
started, and so has its task unless it had before. All else is as it was. -/
def handingOut (s : Store) (now : Timestamp) (worker : String) (i : StoredItem) (r : Run)
    (t : Task) : Store :=
  { s with
    queue := s.queue.map fun j => if j = i then claim now worker i else j
    runs := s.runs.map fun q => if q = r then startRun now r else q
    tasks := s.tasks.map fun u => if u = t then startTask now t else u }

/-- The store in which an item has been **turned down**: it has left the queue, its run has failed,
and its task has concluded if no run of it is open. All else is as it was. -/
def turningDown (s : Store) (now later : Timestamp) (i : StoredItem) (r : Run) (t : Task) : Store :=
  let runs := s.runs.map fun q => if q = r then endRun later false (startRun now r) else q
  { s with
    queue := s.queue.filter fun j => j ≠ i
    runs
    tasks := s.tasks.map fun u => if u = t then
      (startTask now t).concluded later (runs.filter (·.task = t.id)) else u }

section Changes

variable {r : Run} {t : Task}

theorem Integrity.claiming_eq_handingOut (whole : s.Integrity) (queued : i ∈ s.queue)
    (h : s.IsFor i r t) (now : Timestamp) (worker : String) :
    s.claiming now worker i r = s.handingOut now worker i r t := by
  rw [claiming_eq, handingOut, Store.revise, List.filter_true]
  congr 1
  · refine List.map_congr_left fun u known => ?_
    by_cases same : u = t
    · rw [if_pos same, same, if_pos h.own]
    · rw [if_neg same, if_neg fun own =>
        same (whole.eq_of_task_id known h.task (own.trans h.own.symm))]
  · refine List.map_congr_left fun q known => ?_
    by_cases same : q = r
    · rw [if_pos same, same, if_pos rfl]
    · rw [if_neg same, if_neg fun own => same (whole.eq_of_run_id known h.run own)]
  · refine List.map_congr_left fun j known => ?_
    by_cases same : j = i
    · rw [if_pos same, same, if_pos rfl]
    · rw [if_neg same, if_neg fun own => same (whole.eq_of_position known queued own)]

/-- An item that has been handed out and whose run **fails at once** has been turned down. -/
theorem Integrity.concluding_handingOut (whole : s.Integrity) (queued : i ∈ s.queue)
    (h : s.IsFor i r t) (now later : Timestamp) (worker : String) :
    (s.handingOut now worker i r t).concluding later (startRun now r) false =
      s.turningDown now later i r t := by
  have runs : (s.handingOut now worker i r t).runs.map (fun q => if q.id = r.id then
      endRun later false q else q) = (s.turningDown now later i r t).runs := by
    rw [handingOut, turningDown, List.map_map]
    refine List.map_congr_left fun q known => ?_
    by_cases same : q = r
    · simp [same, startRun]
    · have other : q.id ≠ r.id := fun own => same (whole.eq_of_run_id known h.run own)
      simp [same, other]
  have tasks : (s.handingOut now worker i r t).tasks.map (fun u => if u.id = r.task then
      u.concluded later ((s.turningDown now later i r t).runs.filter (·.task = u.id)) else u) =
      (s.turningDown now later i r t).tasks := by
    rw [handingOut, turningDown, List.map_map]
    refine List.map_congr_left fun u known => ?_
    by_cases same : u = t
    · simp [same, h.own, startTask]
    · have other : u.id ≠ r.task := fun own =>
        same (whole.eq_of_task_id known h.task (own.trans h.own.symm))
      simp [same, other]
  have queue : (s.handingOut now worker i r t).queue.filter (fun j => j.run ≠ r.id) =
      (s.turningDown now later i r t).queue := by
    have leaves : s.queue.filter ((fun j => decide (j.run ≠ r.id)) ∘ fun j => if j = i then
        claim now worker i else j) = s.queue.filter fun j => j ≠ i := by
      refine List.filter_congr fun j known => ?_
      by_cases same : j = i
      · simp [same, h.same, claim]
      · have other : j.run ≠ r.id := fun own =>
          same (whole.eq_of_item_run known queued (own.trans h.same))
        simp [same, other]
    rw [handingOut, turningDown, List.filter_map, leaves]
    exact map_eq_self fun j mem => if_neg (of_decide_eq_true (List.mem_filter.mp mem).2)
  calc (s.handingOut now worker i r t).concluding later (startRun now r) false
      = { s with
          tasks := (s.handingOut now worker i r t).tasks.map fun u => if u.id = r.task then
            u.concluded later (((s.handingOut now worker i r t).runs.map fun q =>
              if q.id = r.id then endRun later false q else q).filter (·.task = u.id)) else u
          runs := (s.handingOut now worker i r t).runs.map fun q =>
            if q.id = r.id then endRun later false q else q
          queue := (s.handingOut now worker i r t).queue.filter fun j => j.run ≠ r.id } := rfl
    _ = s.turningDown now later i r t := by rw [runs, tasks, queue]; rfl

/-- Handing an item out keeps the **integrity** of the store. -/
theorem Integrity.handingOut (whole : s.Integrity) (queued : i ∈ s.queue) (h : s.IsFor i r t)
    (now : Timestamp) (worker : String) : (s.handingOut now worker i r t).Integrity := by
  rw [← whole.claiming_eq_handingOut queued h, claiming_eq]
  exact whole.revise (revises_claiming now worker r.task r.id i.position)

/-- For an item that has been handed out there is a **target**, which tells whether there is an
owner. -/
theorem Integrity.target_handingOut (whole : s.Integrity) (queued : i ∈ s.queue)
    (h : s.IsFor i r t) (now : Timestamp) (worker : String) :
    ∃ target, (s.handingOut now worker i r t).target r.task = .ok target ∧
      (target.owner = none ↔ ¬ s.HasOwner t) := by
  have task : startTask now t ∈ (s.handingOut now worker i r t).tasks :=
    List.mem_map.mpr ⟨t, h.task, if_pos rfl⟩
  obtain ⟨target, found, owner⟩ :=
    Cancellation.target_owner (whole.handingOut queued h now worker) task
  have owner' : target.owner.isNone = !Cancellation.hasOwner s t := owner
  have owned : Cancellation.hasOwner s t = true ↔ s.HasOwner t := Cancellation.hasOwner_iff whole
  refine ⟨target, h.own ▸ found, ?_⟩
  rw [← owned, ← Option.isNone_iff_eq_none, owner']
  simp

/-- The run of an item that has been handed out **can fail**, if it is open and its task
unfinished. -/
theorem Integrity.finishRun_handingOut (whole : s.Integrity) (queued : i ∈ s.queue)
    (h : s.IsFor i r t) (unended : r.status = none) (unfinished : t.isFinished = false)
    (now later : Timestamp) (worker : String) :
    (finishRun later r.id false (s.handingOut now worker i r t)).2 =
      s.turningDown now later i r t := by
  have run : startRun now r ∈ (s.handingOut now worker i r t).runs :=
    List.mem_map.mpr ⟨r, h.run, if_pos rfl⟩
  have task : startTask now t ∈ (s.handingOut now worker i r t).tasks :=
    List.mem_map.mpr ⟨t, h.task, if_pos rfl⟩
  obtain ⟨result, done⟩ := (whole.handingOut queued h now worker).finishRun_open run unended task
    h.own unfinished later false
  exact (congrArg Prod.snd done).trans (whole.concluding_handingOut queued h now later worker)

/-- Where an item waits, one has **waited longest**, and it is for a run of a task. -/
theorem Integrity.exists_oldest (whole : s.Integrity) (queued : i ∈ s.queue) (own : i.queue = queue)
    (waits : i.running = false) : ∃ j r t, s.Oldest queue j ∧ s.IsFor j r t := by
  obtain ⟨j, next⟩ : ∃ j, s.waiting? queue = some j := by
    rw [← Option.isSome_iff_exists, waiting?, List.find?_isSome]
    exact ⟨i, queued, by simp [own, waits]⟩
  have oldest := whole.waiting?_eq_some.mp next
  obtain ⟨r, run, same⟩ := whole.exists_run oldest.queued
  obtain ⟨t, task, own'⟩ := whole.exists_task run
  exact ⟨j, r, t, oldest, run, same, task, own'⟩

/-- Where none waits, a claim is **refused**. -/
theorem dequeue_idle (claimed : ∀ i ∈ s.queue, i.queue = queue → i.running = true)
    (now : Timestamp) (worker : String) :
    ∃ subject, dequeue now queue worker s = (.error (.notFound subject), s) := by
  have nothingWaits : s.waiting? queue = none := by
    refine List.find?_eq_none.mpr fun i queued => ?_
    have := claimed i queued
    simp_all
  rcases dequeue_cases now queue worker s with ⟨-, refused⟩ | ⟨i, waiting, -⟩
  · exact refused
  · cases waiting.symm.trans nothingWaits

/-- Where one waits, the item that has waited longest is **handed out**. -/
theorem Integrity.dequeue_oldest (whole : s.Integrity) (oldest : s.Oldest queue i)
    (h : s.IsFor i r t) (now : Timestamp) (worker : String) : dequeue now queue worker s =
      (.ok ((claim now worker i).withRun (startRun now r)), s.handingOut now worker i r t) := by
  rw [whole.dequeue_waiting (whole.waiting?_eq_some.mpr oldest) h.run h.same now worker,
    whole.claiming_eq_handingOut oldest.queued h]

end Changes

end Store

namespace Worker

open Operation Store

/-- What follows the **claim** of an item. -/
def resolve (item : QueueItem) : Operation QueueItem := do
  let target ← stage "resolving run target" (store (.getTarget item.run.task))
  match target.owner with
  | none =>
    let _ ← tryStore (.finishRun item.run.id false)
    fail (noOwner target.repository)
  | some owner =>
    notify (noticeTo target owner (.started item.run.id item.run.name))
    return item

/-- A worker that gives no name is refused. -/
def nameless : OperationError := DomainError.invalidInput "running_on is required"

theorem next_eq (queue worker : String) : next queue worker =
    if Text.allBlank worker then fail nameless
    else store (.dequeue (Queue.nameOrDefault queue) worker) >>= resolve := by
  rw [next]
  split <;> rfl

/-- How asking for work **ends** in a store that does not fail. -/
structure Outcome (s : Store) (queue worker : String) (res : Except OperationError QueueItem)
    (s' : Store) : Prop where
  /-- Nothing is found exactly if nothing waits on the queue, -/
  notFound : (∃ e, res = .error e ∧ e.kind = .notFound) ↔
    ∀ i ∈ s.queue, i.queue = queue → i.running = true
  /-- and then nothing changes. -/
  idle : (∀ i ∈ s.queue, i.queue = queue → i.running = true) → s' = s
  /-- Else the item that has waited longest is handed out, if there is an owner, -/
  handedOut : ∀ i r t, s.Oldest queue i → s.IsFor i r t → s.HasOwner t → ∃ now,
    res = .ok ((claim now worker i).withRun (startRun now r)) ∧ s' = s.handingOut now worker i r t
  /-- and turned down if there is none. -/
  turnedDown : ∀ i r t, s.Oldest queue i → s.IsFor i r t → ¬ s.HasOwner t →
    (∃ e, res = .error e ∧ e.kind = .forbidden) ∧
      ∃ now later, s' = s.turningDown now later i r t

variable {s s' : Store} {queue worker : String}

/-- Nothing waits. -/
theorem Outcome.of_idle (claimed : ∀ i ∈ s.queue, i.queue = queue → i.running = true)
    (subject : String) : Outcome s queue worker (.error (StoreError.notFound subject)) s := by
  have never {i : StoredItem} (oldest : s.Oldest queue i) : False := by
    have running := claimed i oldest.queued oldest.own
    rw [oldest.waits] at running
    cases running
  exact
    { notFound := ⟨fun _ => claimed, fun _ => ⟨_, rfl, rfl⟩⟩
      idle := fun _ => rfl
      handedOut := fun i r t oldest => (never oldest).elim
      turnedDown := fun i r t oldest => (never oldest).elim }

/-- There is one item that has waited longest, so what becomes of it is all there is to say. -/
theorem Outcome.of_oldest (whole : s.Integrity) {i : StoredItem} {r : Run} {t : Task}
    {res : Except OperationError QueueItem} (oldest : s.Oldest queue i) (h : s.IsFor i r t)
    (found : ∀ e, res = .error e → e.kind ≠ .notFound)
    (handedOut : s.HasOwner t → ∃ now, res = .ok ((claim now worker i).withRun (startRun now r)) ∧
      s' = s.handingOut now worker i r t)
    (turnedDown : ¬ s.HasOwner t → (∃ e, res = .error e ∧ e.kind = .forbidden) ∧
      ∃ now later, s' = s.turningDown now later i r t) : Outcome s queue worker res s' := by
  have same {i' : StoredItem} {r' : Run} {t' : Task} (oldest' : s.Oldest queue i')
      (h' : s.IsFor i' r' t') : i = i' ∧ r = r' ∧ t = t' := by
    have one := whole.waiting?_eq_some.mpr oldest
    obtain rfl : i = i' := Option.some.inj (one.symm.trans (whole.waiting?_eq_some.mpr oldest'))
    obtain rfl : r = r' := whole.eq_of_run_id h.run h'.run (h.same.trans h'.same.symm)
    obtain rfl : t = t' := whole.eq_of_task_id h.task h'.task (h.own.trans h'.own.symm)
    exact ⟨rfl, rfl, rfl⟩
  have waits : ¬ ∀ i ∈ s.queue, i.queue = queue → i.running = true := by
    intro all
    have running := all i oldest.queued oldest.own
    rw [oldest.waits] at running
    cases running
  exact
    { notFound := ⟨fun ⟨e, eq, kind⟩ => absurd kind (found e eq), fun all => absurd all waits⟩
      idle := fun all => absurd all waits
      handedOut := fun i' r' t' oldest' h' => by
        obtain ⟨rfl, rfl, rfl⟩ := same oldest' h'
        exact handedOut
      turnedDown := fun i' r' t' oldest' h' => by
        obtain ⟨rfl, rfl, rfl⟩ := same oldest' h'
        exact turnedDown }

/-- An item that has been claimed is **returned** if there is an owner, and else its run fails. -/
theorem resolve_ensures {item : QueueItem} {target : TaskTarget}
    (found : s.target item.run.task = .ok target)
    {post : Except OperationError QueueItem → Store → Prop}
    (returned : target.owner ≠ none → post (.ok item) s)
    (failed : target.owner = none → ∀ now,
      post (.error (noOwner target.repository)) (finishRun now item.run.id false s).2) :
    (resolve item).Ensures post s := by
  refine ensures_bind.mpr (ensures_stage.mpr ((ensures_store (.getTarget _)).mpr fun _ => ?_))
  rw [StoreCall.run, StoreM.look_run, found]
  dsimp only [Except.mapError]
  cases owner : target.owner with
  | none =>
      refine ensures_bind.mpr ((ensures_tryStore _).mpr fun now => ?_)
      exact failed owner now
  | some user =>
      refine ensures_bind.mpr (ensures_notify.mpr ?_)
      exact returned (by simp [owner])

/-- Asking for work under a **name**. -/
theorem next_ensures (whole : s.Integrity)
    (queued : ∀ i ∈ s.queue, ∀ r ∈ s.runs, r.id = i.run → r.status = none)
    (settled : ∀ t ∈ s.tasks, t.isFinished = true → ∀ r ∈ s.runs, r.task = t.id → r.status ≠ none)
    (named : Text.allBlank worker = false) :
    (next queue worker).Ensures (Outcome s (Queue.nameOrDefault queue) worker) s := by
  rw [next_eq, named, if_neg (by decide)]
  refine ensures_bind.mpr ((ensures_store (.dequeue _ _)).mpr fun now => ?_)
  by_cases claimed : ∀ i ∈ s.queue, i.queue = Queue.nameOrDefault queue → i.running = true
  · obtain ⟨subject, refused⟩ := dequeue_idle claimed now worker
    rw [StoreCall.run, refused]
    exact .of_idle claimed subject
  · push Not at claimed
    obtain ⟨i, known, own, waits⟩ := claimed
    obtain ⟨i, r, t, oldest, h⟩ := whole.exists_oldest known own (by simpa using waits)
    have unended : r.status = none := queued i oldest.queued r h.run h.same
    have unfinished : t.isFinished = false := by
      by_contra finished
      exact settled t h.task (by simpa using finished) r h.run h.own.symm unended
    obtain ⟨target, found, owner⟩ := whole.target_handingOut oldest.queued h now worker
    rw [StoreCall.run, whole.dequeue_oldest oldest h now worker]
    refine resolve_ensures found (fun owned => ?_) (fun ownerless later => ?_)
    · refine .of_oldest whole oldest h (by rintro _ ⟨⟩) (fun _ => ⟨now, rfl, rfl⟩) ?_
      exact fun ownerless => absurd (owner.mpr ownerless) owned
    · have turned := whole.finishRun_handingOut oldest.queued h unended unfinished now later worker
      refine .of_oldest whole oldest h (by rintro _ ⟨⟩ ⟨⟩) ?_ fun _ => ?_
      · exact fun owned => absurd owned (owner.mp ownerless)
      · exact ⟨⟨_, rfl, rfl⟩, now, later, turned⟩

/-- What asking for work **comes to** in a store that does not fail. -/
structure ServesNext (s : Store) (queue worker : String) : Prop where
  /-- A worker that gives no name is refused, and nothing changes. -/
  blank : Text.allBlank worker = true → (next queue worker).Rests (.error nameless) s
  named : Text.allBlank worker = false →
    (next queue worker).Ensures (Outcome s (Queue.nameOrDefault queue) worker) s

/-- **What asking for work comes to** after any calls to the store, as long as runs on the queue are
open and those of finished tasks are not. -/
theorem next_outcome (calls : List DueCall) (queue worker : String)
    (queued : ∀ i ∈ (empty.after calls).queue, ∀ r ∈ (empty.after calls).runs,
      r.id = i.run → r.status = none)
    (settled : ∀ t ∈ (empty.after calls).tasks, t.isFinished = true →
      ∀ r ∈ (empty.after calls).runs, r.task = t.id → r.status ≠ none) :
    ServesNext (empty.after calls) queue worker where
  blank blank := by
    rw [next_eq, if_pos blank]
    exact ⟨rfl, rfl⟩
  named := next_ensures (integrity_empty.after calls) queued settled

end Worker

namespace Sample

/-- The settings of a run and of a task with that run. -/
def runSettings : RunSettings :=
  { RunSettings.named "test" with command := ["cargo"], image := "rust:1", queue := "default" }
def taskSettings : TaskSettings :=
  { TaskSettings.empty with mountpoint := "/src", runs := .ofList [("test", runSettings)] }

/-- Calls that put a run of a repository with or without an owner on the default queue. -/
def waiting (owner : Option Id) : List DueCall :=
  [.createUser "ada" "token", .createRepository { repository with owner },
    .findOrCreateRef (.issued .repository 1) "heads/main" base,
    .createSubmission ⟨.issued .gitRef 1, none, none, none⟩,
    .createTask ⟨.issued .submission 1, .issued .repository 1, ".", taskSettings, none⟩,
    .createRun ⟨.issued .task 1, "*root*:test", runSettings⟩,
    .enqueue [.on (.issued .run 1) ""]].map (⟨.startOfYear 0, ·⟩)

end Sample

namespace Worker

open Operation Store

/-- A run waits, of a repository that has an owner, or that has none. -/
theorem next_outcome_sample :
    (((empty.after (Sample.waiting (some (.issued .user 1)))).waitingOn "default").length = 1 ∧
      ServesNext (empty.after (Sample.waiting (some (.issued .user 1)))) "default" "worker") ∧
    ((empty.after (Sample.waiting none)).waitingOn "default").length = 1 ∧
      ServesNext (empty.after (Sample.waiting none)) "default" "worker" := by
  have waits : ∀ owner ∈ [some (.issued .user 1), none],
      ((empty.after (Sample.waiting owner)).waitingOn "default").length = 1 := by decide +kernel
  have queued : ∀ owner ∈ [some (.issued .user 1), none],
      ∀ i ∈ (empty.after (Sample.waiting owner)).queue,
        ∀ r ∈ (empty.after (Sample.waiting owner)).runs, r.id = i.run → r.status = none := by
    decide +kernel
  have settled : ∀ owner ∈ [some (.issued .user 1), none],
      ∀ t ∈ (empty.after (Sample.waiting owner)).tasks, t.isFinished = true →
        ∀ r ∈ (empty.after (Sample.waiting owner)).runs, r.task = t.id → r.status ≠ none := by
    decide +kernel
  have serves (owner : Option Id) (mem : owner ∈ [some (.issued .user 1), none]) :
      ((empty.after (Sample.waiting owner)).waitingOn "default").length = 1 ∧
        ServesNext (empty.after (Sample.waiting owner)) "default" "worker" :=
    ⟨waits owner mem, next_outcome (Sample.waiting owner) "default" "worker" (queued owner mem)
      (settled owner mem)⟩
  exact ⟨serves _ List.mem_cons_self, serves _ (List.mem_cons_of_mem _ List.mem_cons_self)⟩

end Worker

end Dispatch
