import Dispatch.Proofs.Calls
import Dispatch.Proofs.Store.Effect
import Dispatch.Proofs.Store.Integrity

/-!
# Steps of the store

What one call may do to a store. Calls that add no work take a `Step`: they add a record, claim an
item, end a run or cancel a task. The three calls that add work add a task or a run, or put a
batch on the queue. All of them keep the integrity of the store, so every program does.

## Main definitions

* `Store.Step`: what a call that adds no work does.
* `Store.Move`: what any call does.
* `Store.addWork`: the store with more tasks and runs.
* `Store.revise`: the store with its tasks, runs and items changed one by one, and without some of
  the items.
* `Store.Grows`: repositories, refs and submissions are only ever added.

## Main results

* `StoreCall.run_step`: a call that adds no work takes a step.
* `StoreCall.run_moves`: every call makes a move.
* `Store.Integrity.step`, `StoreCall.run_integrity`: calls keep the integrity of the store.
* `Operation.Ends.integrity`: so does every operation.
* `Operation.Ends.grows`: what an operation does to repositories, refs and submissions.
-/

namespace Dispatch

/-! ### Calls about other records -/

/-- A call about **other records** than tasks, runs and queue items. -/
def StoreCall.LeavesWork : StoreCall → Prop
  | createTask _ | cancelTask _ | createRun _ | finishRun _ _ | enqueue _ | dequeue _ _ => False
  | _ => True

/-- It leaves tasks, runs and queue as they are. -/
theorem StoreCall.LeavesWork.run_eq {call : StoreCall} (h : call.LeavesWork) (now : Timestamp)
    (s : Store) : (call.run now s).2.tasks = s.tasks ∧ (call.run now s).2.runs = s.runs ∧
      (call.run now s).2.queue = s.queue ∧
      (call.run now s).2.nextPosition = s.nextPosition := by
  have same {reply : Except StoreError call.Reply} {s' : Store} (run : call.run now s = (reply, s'))
      (work : s'.tasks = s.tasks ∧ s'.runs = s.runs ∧ s'.queue = s.queue ∧
        s'.nextPosition = s.nextPosition) : (call.run now s).2.tasks = s.tasks ∧
      (call.run now s).2.runs = s.runs ∧ (call.run now s).2.queue = s.queue ∧
      (call.run now s).2.nextPosition = s.nextPosition := by
    rw [run]
    exact work
  cases call with
  | createUser username token =>
      rcases Store.createUser_cases now username token s with ⟨e, run⟩ | ⟨-, run⟩
      · exact same run ⟨rfl, rfl, rfl, rfl⟩
      · exact same run ⟨rfl, rfl, rfl, rfl⟩
  | createRepository new =>
      rcases Store.createRepository_cases now new s with ⟨e, run⟩ | ⟨-, -, run⟩
      · exact same run ⟨rfl, rfl, rfl, rfl⟩
      · exact same run ⟨rfl, rfl, rfl, rfl⟩
  | findOrCreateRef repository name sha =>
      rcases Store.findOrCreateRef_cases repository name sha s with
        ⟨e, run⟩ | ⟨known, -, run⟩ | ⟨-, -, -, run⟩
      · exact same run ⟨rfl, rfl, rfl, rfl⟩
      · exact same run ⟨rfl, rfl, rfl, rfl⟩
      · exact same run ⟨rfl, rfl, rfl, rfl⟩
  | createSubmission new =>
      rcases Store.createSubmission_cases now new s with ⟨-, e, run⟩ | ⟨-, -, run⟩
      · exact same run ⟨rfl, rfl, rfl, rfl⟩
      · exact same run ⟨rfl, rfl, rfl, rfl⟩
  | createTask | cancelTask | createRun | finishRun | enqueue | dequeue => exact h.elim
  | _ => exact ⟨rfl, rfl, rfl, rfl⟩

namespace Store

/-! ### Steps -/

/-- What a call that **adds no work** does to the store. -/
inductive Step (s : Store) : Store → Prop
  | stay : Step s s
  | addUser (now : Timestamp) (username token : String) (free : s.userNamed? username = none) :
      Step s { s with users := s.users ++ [s.newUser now username token] }
  | addRepository (now : Timestamp) (new : NewRepository)
      (name : Repository.isName new.name = true) (free : s.repositoryNamed? new.name = none) :
      Step s { s with repositories := s.repositories ++ [s.newRepository now new] }
  | addRef (repository : Id) (name sha : String) (valid : Ref.validate name sha = .ok ())
      (known : repository ∈ s.repositories.map (·.id)) (free : s.refFor? repository sha = none) :
      Step s { s with refs := s.refs ++ [s.newRef repository name sha] }
  | addSubmission (now : Timestamp) (new : NewSubmission) (base : new.base ∈ s.refs.map (·.id))
      (head : ∀ head, new.head = some head → head ∈ s.refs.map (·.id)) :
      Step s (s.addSubmission now new)
  | claim (now : Timestamp) (worker : String) (i : StoredItem) (r : Run) (queued : i ∈ s.queue)
      (waiting : i.running = false) (known : r ∈ s.runs) (run : r.id = i.run) :
      Step s (s.claiming now worker i r)
  /-- A run ends that is not the last open one of its task. -/
  | endRun (now : Timestamp) (status : Bool) (r : Run) (t : Task) (known : r ∈ s.runs)
      (unended : r.status = none) (knownTask : t ∈ s.tasks) (task : t.id = r.task)
      (others : t.isFinished = true ∨ rolledUp? ((s.ending now r.id status).runsOf t.id) = none) :
      Step s (s.ending now r.id status)
  /-- The last open run of a task ends. -/
  | endTask (now : Timestamp) (status result : Bool) (r : Run) (t : Task) (known : r ∈ s.runs)
      (unended : r.status = none) (knownTask : t ∈ s.tasks) (task : t.id = r.task)
      (unfinished : t.isFinished = false)
      (sums : rolledUp? ((s.ending now r.id status).runsOf t.id) = some result) :
      Step s ((s.ending now r.id status).changeTask t.id (Store.endTask now result))
  | cancel (now : Timestamp) (t : Task) (known : t ∈ s.tasks) (unfinished : t.isFinished = false) :
      Step s (s.canceling now t.id)

theorem step_finishRun {s : Store} (h : s.Integrity) (now : Timestamp) (id : Id) (status : Bool) :
    Step s (finishRun now id status s).2 := by
  rcases finishRun_cases now id status s with ⟨-, e, run⟩ | ⟨r, found, unended, ended⟩
  · rw [run]
    exact .stay
  · obtain ⟨known, rfl⟩ := h.run?_eq_some.mp found
    rcases ended with
      ⟨missing, e, run⟩ | ⟨t, found, others, run⟩ | ⟨t, result, found, unfinished, sums, run⟩
    · obtain ⟨t, mem, same⟩ := h.exists_task known
      cases missing.symm.trans (h.task?_eq_some.mpr ⟨mem, same⟩)
    · obtain ⟨knownTask, task⟩ := h.task?_eq_some.mp found
      rw [run]
      rw [← task] at others
      exact .endRun now status r t known unended knownTask task others
    · obtain ⟨knownTask, task⟩ := h.task?_eq_some.mp found
      rw [run]
      rw [← task] at sums ⊢
      exact .endTask now status result r t known unended knownTask task unfinished sums

theorem step_cancelTask {s : Store} (h : s.Integrity) (now : Timestamp) (id : Id) :
    Step s (cancelTask now id s).2 := by
  rcases cancelTask_cases now id s with
    ⟨-, _, run⟩ | ⟨_, -, -, _, run⟩ | ⟨t, found, unfinished, run⟩
  · rw [run]
    exact .stay
  · rw [run]
    exact .stay
  · obtain ⟨known, rfl⟩ := h.task?_eq_some.mp found
    rw [run]
    exact .cancel now t known unfinished

theorem step_dequeue {s : Store} (h : s.Integrity) (now : Timestamp) (queue worker : String) :
    Step s (dequeue now queue worker s).2 := by
  rcases dequeue_cases now queue worker s with
    ⟨-, _, run⟩ | ⟨i, found, ⟨missing, e, run⟩ | ⟨r, foundRun, run⟩⟩
  · rw [run]
    exact .stay
  · obtain ⟨r, known, same⟩ := h.exists_run (List.mem_of_find?_eq_some found)
    cases missing.symm.trans (h.run?_eq_some.mpr ⟨known, same⟩)
  · obtain ⟨known, same⟩ := h.run?_eq_some.mp foundRun
    have waiting := List.find?_some found
    rw [Bool.and_eq_true, Bool.not_eq_true'] at waiting
    rw [run]
    exact .claim now worker i r (List.mem_of_find?_eq_some found) waiting.2 known same

end Store

/-- A call that adds no work **takes a step**. -/
theorem StoreCall.run_step {s : Store} (h : s.Integrity) (call : StoreCall)
    (quiet : call.AddsNoWork) (now : Timestamp) : s.Step (call.run now s).2 := by
  cases call with
  | createUser username token =>
      rcases Store.createUser_cases now username token s with ⟨e, run⟩ | ⟨free, run⟩
      · rw [StoreCall.run, run]
        exact .stay
      · rw [StoreCall.run, run]
        exact .addUser now username token free
  | createRepository new =>
      rcases Store.createRepository_cases now new s with ⟨e, run⟩ | ⟨name, free, run⟩
      · rw [StoreCall.run, run]
        exact .stay
      · rw [StoreCall.run, run]
        exact .addRepository now new name free
  | findOrCreateRef repository name sha =>
      rcases Store.findOrCreateRef_cases repository name sha s with
        ⟨e, run⟩ | ⟨known, -, run⟩ | ⟨valid, known, free, run⟩
      · rw [StoreCall.run, run]
        exact .stay
      · rw [StoreCall.run, run]
        exact .stay
      · rw [StoreCall.run, run]
        exact .addRef repository name sha valid known free
  | createSubmission new =>
      rcases Store.createSubmission_cases now new s with ⟨-, e, run⟩ | ⟨base, head, run⟩
      · rw [StoreCall.run, run]
        exact .stay
      · rw [StoreCall.run, run]
        exact .addSubmission now new base head
  | createTask new => exact quiet.elim
  | cancelTask task => exact Store.step_cancelTask h now task
  | createRun new => exact quiet.elim
  | finishRun run status => exact Store.step_finishRun h now run status
  | enqueue batch => exact quiet.elim
  | dequeue queue worker => exact Store.step_dequeue h now queue worker
  | _ => exact .stay

/-! ### Changing records one by one -/

/-- Two versions of a task are of the **same work**. -/
structure Task.SameWork (t u : Task) : Prop where
  id : t.id = u.id
  submission : t.submission = u.submission
  repository : t.repository = u.repository
  path : t.path = u.path
  settings : t.settings = u.settings
  pullRequest : t.pullRequest = u.pullRequest

/-- Two versions of a run are of the **same work**. -/
structure Run.SameWork (r q : Run) : Prop where
  id : r.id = q.id
  task : r.task = q.task
  name : r.name = q.name
  settings : r.settings = q.settings

theorem Task.SameWork.refl (t : Task) : t.SameWork t := ⟨rfl, rfl, rfl, rfl, rfl, rfl⟩

theorem Task.SameWork.trans {t u v : Task} (h : t.SameWork u) (h' : u.SameWork v) :
    t.SameWork v where
  id := h.id.trans h'.id
  submission := h.submission.trans h'.submission
  repository := h.repository.trans h'.repository
  path := h.path.trans h'.path
  settings := h.settings.trans h'.settings
  pullRequest := h.pullRequest.trans h'.pullRequest

theorem Run.SameWork.refl (r : Run) : r.SameWork r := ⟨rfl, rfl, rfl, rfl⟩

theorem Run.SameWork.trans {r q p : Run} (h : r.SameWork q) (h' : q.SameWork p) :
    r.SameWork p where
  id := h.id.trans h'.id
  task := h.task.trans h'.task
  name := h.name.trans h'.name
  settings := h.settings.trans h'.settings

/-- Two versions of a queue item stand at the **same place** for the same run. -/
structure StoredItem.SamePlace (i j : StoredItem) : Prop where
  run : i.run = j.run
  queue : i.queue = j.queue
  position : i.position = j.position

namespace Store

/-- The store with **more work**: tasks, and runs that are not on the queue. -/
def addWork (s : Store) (tasks : List Task) (runs : List Run) : Store :=
  { s with tasks := s.tasks ++ tasks, runs := s.runs ++ runs }

/-- The store with its tasks, runs and items **changed one by one**, and only those items that
meet a condition. -/
def revise (s : Store) (task : Task → Task) (run : Run → Run) (keep : StoredItem → Bool)
    (item : StoredItem → StoredItem) : Store :=
  { s with
    tasks := s.tasks.map task
    runs := s.runs.map run
    queue := (s.queue.filter keep).map item }

/-- Changes that leave the work the same. -/
structure Revises (task : Task → Task) (run : Run → Run) (item : StoredItem → StoredItem) :
    Prop where
  task : ∀ t, (task t).SameWork t
  run : ∀ r, (run r).SameWork r
  item : ∀ i, (item i).SamePlace i

theorem canceling_eq (s : Store) (now : Timestamp) (task : Id) :
    s.canceling now task = s.revise
      (fun t => if t.id = task then endCanceled now t else t)
      (fun r => if isOpenRunOf task r then endRun now false r else r)
      (fun i => !(((s.runs.filter (isOpenRunOf task)).map (endRun now false)).map (·.id)).contains
        i.run) id := by
  simp only [canceling, revise, dropItems, changeTask, mapRuns, List.map_id]

theorem ending_eq (s : Store) (now : Timestamp) (run : Id) (status : Bool) :
    s.ending now run status = s.revise id (fun r => if r.id = run then endRun now status r else r)
      (fun i => !([run].contains i.run)) id := by
  simp only [ending, revise, dropItems, changeRun, mapRuns, List.map_id]

theorem claiming_eq (s : Store) (now : Timestamp) (worker : String) (i : StoredItem) (r : Run) :
    s.claiming now worker i r = s.revise
      (fun t => if t.id = r.task then startTask now t else t)
      (fun q => if q.id = r.id then startRun now q else q) (fun _ => true)
      (fun j => if j.position = i.position then claim now worker j else j) := by
  simp only [claiming, revise, changeItem, changeTask, changeRun, mapRuns, List.filter_true]

theorem revises_canceling (now : Timestamp) (task : Id) :
    Revises (fun t => if t.id = task then endCanceled now t else t)
      (fun r => if isOpenRunOf task r then endRun now false r else r) id where
  task t := by
    split
    exacts [⟨rfl, rfl, rfl, rfl, rfl, rfl⟩, ⟨rfl, rfl, rfl, rfl, rfl, rfl⟩]
  run r := by
    split
    exacts [⟨rfl, rfl, rfl, rfl⟩, ⟨rfl, rfl, rfl, rfl⟩]
  item _ := ⟨rfl, rfl, rfl⟩

theorem revises_ending (now : Timestamp) (run : Id) (status : Bool) :
    Revises id (fun r => if r.id = run then endRun now status r else r) id where
  task _ := ⟨rfl, rfl, rfl, rfl, rfl, rfl⟩
  run r := by
    split
    exacts [⟨rfl, rfl, rfl, rfl⟩, ⟨rfl, rfl, rfl, rfl⟩]
  item _ := ⟨rfl, rfl, rfl⟩

theorem revises_claiming (now : Timestamp) (worker : String) (task run : Id) (position : Nat) :
    Revises (fun t => if t.id = task then startTask now t else t)
      (fun r => if r.id = run then startRun now r else r)
      (fun i => if i.position = position then claim now worker i else i) where
  task t := by
    split
    exacts [⟨rfl, rfl, rfl, rfl, rfl, rfl⟩, ⟨rfl, rfl, rfl, rfl, rfl, rfl⟩]
  run r := by
    split
    exacts [⟨rfl, rfl, rfl, rfl⟩, ⟨rfl, rfl, rfl, rfl⟩]
  item i := by
    split
    exacts [⟨rfl, rfl, rfl⟩, ⟨rfl, rfl, rfl⟩]

theorem ending_changeTask_eq (s : Store) (now : Timestamp) (run : Id) (status : Bool) (task : Id)
    (result : Bool) :
    (s.ending now run status).changeTask task (endTask now result) = s.revise
      (fun t => if t.id = task then endTask now result t else t)
      (fun r => if r.id = run then endRun now status r else r)
      (fun i => !([run].contains i.run)) id := by
  simp only [ending, revise, dropItems, changeRun, mapRuns, changeTask, List.map_id]

theorem revises_ending_endTask (now : Timestamp) (run : Id) (status : Bool) (task : Id)
    (result : Bool) :
    Revises (fun t => if t.id = task then endTask now result t else t)
      (fun r => if r.id = run then endRun now status r else r) id where
  task t := by
    split
    exacts [⟨rfl, rfl, rfl, rfl, rfl, rfl⟩, ⟨rfl, rfl, rfl, rfl, rfl, rfl⟩]
  run := (revises_ending now run status).run
  item _ := ⟨rfl, rfl, rfl⟩

/-- A step adds **no work**: tasks and runs are changed one by one, and stay the same work. -/
theorem Step.sameWork {s s' : Store} (st : s.Step s') : ∃ (task : Task → Task) (run : Run → Run),
    (∀ t, (task t).SameWork t) ∧ (∀ r, (run r).SameWork r) ∧ s'.tasks = s.tasks.map task ∧
      s'.runs = s.runs.map run := by
  have revised {task : Task → Task} {run : Run → Run} {keep : StoredItem → Bool}
      {item : StoredItem → StoredItem} (f : Revises task run item)
      (eq : s' = s.revise task run keep item) : ∃ (task : Task → Task) (run : Run → Run),
        (∀ t, (task t).SameWork t) ∧ (∀ r, (run r).SameWork r) ∧ s'.tasks = s.tasks.map task ∧
          s'.runs = s.runs.map run :=
    ⟨task, run, f.task, f.run, by rw [eq]; rfl, by rw [eq]; rfl⟩
  cases st with
  | stay | addUser | addRepository | addRef | addSubmission =>
      exact ⟨id, id, .refl, .refl, (List.map_id _).symm, (List.map_id _).symm⟩
  | claim now worker i r =>
      exact revised (revises_claiming now worker r.task r.id i.position) (claiming_eq ..)
  | endRun now status r => exact revised (revises_ending now r.id status) (ending_eq ..)
  | endTask now status result r t =>
      exact revised (revises_ending_endTask now r.id status t.id result) (ending_changeTask_eq ..)
  | cancel now t => exact revised (revises_canceling now t.id) (canceling_eq ..)

/-- What a projection of a table shows stays the same if the changes do not touch it. -/
theorem map_map_of_same {α κ : Type} {key : α → κ} {f : α → α} (same : ∀ a, key (f a) = key a)
    (l : List α) : (l.map f).map key = l.map key := by
  rw [List.map_map]
  exact List.map_congr_left fun a _ => same a

variable {s : Store} {task : Task → Task} {run : Run → Run} {keep : StoredItem → Bool}
  {item : StoredItem → StoredItem}

/-- Revisions keep the **integrity** of the store. -/
theorem Integrity.revise (h : s.Integrity) (f : Revises task run item) :
    (s.revise task run keep item).Integrity := by
  have taskIds := map_map_of_same (fun t => (f.task t).id) s.tasks
  have runIds := map_map_of_same (fun r => (f.run r).id) s.runs
  have itemRuns := map_map_of_same (fun i => (f.item i).run) (s.queue.filter keep)
  have positions := map_map_of_same (fun i => (f.item i).position) (s.queue.filter keep)
  exact
    { h with
      tasks := by rw [Store.revise, taskIds]; exact h.tasks
      runs := by rw [Store.revise, runIds]; exact h.runs
      taskSubmission := by
        rintro _ changed
        obtain ⟨t, mem, rfl⟩ := List.mem_map.mp changed
        rw [(f.task t).submission]
        exact h.taskSubmission t mem
      taskRepository := by
        rintro _ changed
        obtain ⟨t, mem, rfl⟩ := List.mem_map.mp changed
        rw [(f.task t).repository]
        exact h.taskRepository t mem
      runTask := by
        rintro _ changed
        obtain ⟨r, mem, rfl⟩ := List.mem_map.mp changed
        rw [(f.run r).task, Store.revise, taskIds]
        exact h.runTask r mem
      itemRun := by
        rintro _ changed
        obtain ⟨i, mem, rfl⟩ := List.mem_map.mp changed
        rw [(f.item i).run, Store.revise, runIds]
        exact h.itemRun i (List.mem_of_mem_filter mem)
      itemRuns := by
        rw [Store.revise, itemRuns]
        exact h.itemRuns.sublist (List.filter_sublist.map _)
      positions := by
        rw [Store.revise, positions]
        exact h.positions.sublist (List.filter_sublist.map _)
      nextPosition := by
        rintro _ changed
        obtain ⟨i, mem, rfl⟩ := List.mem_map.mp changed
        rw [(f.item i).position]
        exact h.nextPosition i (List.mem_of_mem_filter mem)
      taskValid := by
        rintro _ changed
        obtain ⟨t, mem, rfl⟩ := List.mem_map.mp changed
        rw [(f.task t).settings]
        exact h.taskValid t mem
      runValid := by
        rintro _ changed
        obtain ⟨r, mem, rfl⟩ := List.mem_map.mp changed
        rw [(f.run r).task, (f.run r).name, (f.run r).settings]
        exact h.runValid r mem
      itemQueue := by
        rintro _ changed
        obtain ⟨i, mem, rfl⟩ := List.mem_map.mp changed
        rw [(f.item i).queue]
        exact h.itemQueue i (List.mem_of_mem_filter mem) }

/-! ### Adding records -/

theorem numbered_append_one {kind : RecordKind} {α : Type} {key : α → Id} {l : List α} {a : α}
    (h : Id.Numbered kind (l.map key)) (next : key a = .issued kind (l.length + 1)) :
    Id.Numbered kind ((l ++ [a]).map key) := by
  rw [List.map_append, List.map_singleton]
  exact h.append (by rw [List.length_map, next])

/-- A record with a key of its own leaves the keys distinct. -/
theorem nodup_append_one {α κ : Type} {key : α → κ} {l : List α} {a : α}
    (distinct : (l.map key).Nodup) (free : ∀ b ∈ l, key b ≠ key a) :
    ((l ++ [a]).map key).Nodup := by
  rw [List.map_append, List.map_singleton]
  refine distinct.append (List.nodup_singleton _) ?_
  intro k mem last
  obtain ⟨b, known, rfl⟩ := List.mem_map.mp mem
  exact free b known (List.mem_singleton.mp last)

theorem forall_mem_append_one {α : Type} {P : α → Prop} {l : List α} {a : α}
    (old : ∀ b ∈ l, P b) (new : P a) : ∀ b ∈ l ++ [a], P b :=
  List.forall_mem_append.mpr ⟨old, by simpa using new⟩

theorem mem_map_append {α κ : Type} {key : α → κ} {l l' : List α} {k : κ}
    (h : k ∈ l.map key) : k ∈ (l ++ l').map key := by
  rw [List.map_append]
  exact List.mem_append_left _ h

namespace Integrity

theorem addUser (h : s.Integrity) {now : Timestamp} {username token : String}
    (free : s.userNamed? username = none) :
    Integrity { s with users := s.users ++ [s.newUser now username token] } :=
  { h with
    users := numbered_append_one h.users rfl
    usernames := nodup_append_one h.usernames fun u mem same =>
      List.find?_eq_none.mp free u mem (decide_eq_true same) }

theorem addRepository (h : s.Integrity) {now : Timestamp} {new : NewRepository}
    (name : Repository.isName new.name = true) (free : s.repositoryNamed? new.name = none) :
    Integrity { s with repositories := s.repositories ++ [s.newRepository now new] } :=
  { h with
    repositories := numbered_append_one h.repositories rfl
    repositoryNames := nodup_append_one h.repositoryNames fun r mem same =>
      List.find?_eq_none.mp free r mem (decide_eq_true same)
    refRepository := fun r mem => mem_map_append (h.refRepository r mem)
    taskRepository := fun t mem => mem_map_append (h.taskRepository t mem)
    repositoryName := forall_mem_append_one h.repositoryName name
    repositorySecret := forall_mem_append_one h.repositorySecret fun disabled =>
      if_pos disabled }

theorem addRef (h : s.Integrity) {repository : Id} {name sha : String}
    (valid : Ref.validate name sha = .ok ()) (known : repository ∈ s.repositories.map (·.id))
    (free : s.refFor? repository sha = none) :
    Integrity { s with refs := s.refs ++ [s.newRef repository name sha] } :=
  { h with
    refs := numbered_append_one h.refs rfl
    commits := nodup_append_one h.commits fun r mem same => by
      obtain ⟨same, same'⟩ := Prod.mk.inj same
      refine List.find?_eq_none.mp free r mem ?_
      rw [Bool.and_eq_true, decide_eq_true_eq, decide_eq_true_eq]
      exact ⟨same, same'⟩
    refRepository := forall_mem_append_one h.refRepository known
    submissionBase := fun x mem => mem_map_append (h.submissionBase x mem)
    submissionHead := fun x mem head eq => mem_map_append (h.submissionHead x mem head eq)
    refValid := forall_mem_append_one h.refValid valid }

/-- No submission has the identifier of the next one. -/
theorem newSubmission_notMem (h : s.Integrity) {now : Timestamp} {new : NewSubmission} :
    (s.newSubmission now new).id ∉ s.submissions.map (·.id) := by
  have next := h.submissions.next_notMem
  rwa [List.length_map] at next

theorem addSubmission (h : s.Integrity) {now : Timestamp} {new : NewSubmission}
    (base : new.base ∈ s.refs.map (·.id))
    (head : ∀ head, new.head = some head → head ∈ s.refs.map (·.id)) :
    (s.addSubmission now new).Integrity :=
  { h with
    submissions := numbered_append_one h.submissions rfl
    submissionBase := forall_mem_append_one h.submissionBase base
    submissionHead := forall_mem_append_one h.submissionHead head
    taskSubmission := fun t mem => mem_map_append (h.taskSubmission t mem) }

theorem addTask (h : s.Integrity) {now : Timestamp} {new : NewTask}
    (accepted : s.AcceptsTask new) :
    Integrity { s with tasks := s.tasks ++ [s.newTask now new] } :=
  { h with
    tasks := numbered_append_one h.tasks rfl
    taskSubmission := forall_mem_append_one h.taskSubmission accepted.submission
    taskRepository := forall_mem_append_one h.taskRepository accepted.repository
    runTask := fun r mem => mem_map_append (h.runTask r mem)
    taskValid := forall_mem_append_one h.taskValid accepted.valid }

theorem addRun (h : s.Integrity) {now : Timestamp} {new : NewRun}
    (valid : new.validate = .ok ()) (task : new.task ∈ s.tasks.map (·.id)) :
    Integrity { s with runs := s.runs ++ [s.newRun now new] } :=
  { h with
    runs := numbered_append_one h.runs rfl
    runTask := forall_mem_append_one h.runTask task
    itemRun := fun i mem => mem_map_append (h.itemRun i mem)
    runValid := forall_mem_append_one h.runValid valid }

theorem queueing (h : s.Integrity) {batch : List NewQueueItem} (accepted : s.AcceptsBatch batch) :
    (s.queueing batch).Integrity := by
  have item : ∀ i ∈ newItems s.nextPosition batch, i.queue ≠ "" ∧ i.run ∈ s.runs.map (·.id) ∧
      i.position < s.nextPosition + batch.length := by
    intro i mem
    obtain ⟨new, known, eq, -, lt⟩ := mem_newItems mem
    rw [eq]
    exact ⟨accepted.queue new known, accepted.run new known, lt⟩
  exact
    { h with
      itemRun := List.forall_mem_append.mpr ⟨h.itemRun, fun i mem => (item i mem).2.1⟩
      itemRuns := by
        rw [Store.queueing, List.map_append, newItems_map_run]
        refine h.itemRuns.append accepted.distinct ?_
        intro id old mem
        obtain ⟨new, known, rfl⟩ := List.mem_map.mp mem
        exact accepted.waiting new known old
      positions := by
        rw [Store.queueing, List.map_append]
        refine List.pairwise_append.mpr ⟨h.positions, newItems_ascending _ _, ?_⟩
        intro p old q new
        obtain ⟨i, mem, rfl⟩ := List.mem_map.mp old
        obtain ⟨j, mem', rfl⟩ := List.mem_map.mp new
        obtain ⟨_, _, _, le, _⟩ := mem_newItems mem'
        have := h.nextPosition i mem
        omega
      nextPosition := by
        refine List.forall_mem_append.mpr ⟨fun i mem => ?_, fun i mem => (item i mem).2.2⟩
        exact Nat.lt_of_lt_of_le (h.nextPosition i mem) (Nat.le_add_right _ _)
      itemQueue := List.forall_mem_append.mpr ⟨h.itemQueue, fun i mem => (item i mem).1⟩ }

/-- A **step** keeps the integrity of the store. -/
theorem step (h : s.Integrity) {s' : Store} (st : s.Step s') : s'.Integrity := by
  cases st with
  | stay => exact h
  | addUser now username token free => exact h.addUser free
  | addRepository now new name free => exact h.addRepository name free
  | addRef repository name sha valid known free => exact h.addRef valid known free
  | addSubmission now new base head => exact h.addSubmission base head
  | claim now worker i r =>
      rw [claiming_eq]
      exact h.revise (revises_claiming now worker r.task r.id i.position)
  | endRun now status r =>
      rw [ending_eq]
      exact h.revise (revises_ending now r.id status)
  | endTask now status result r t =>
      rw [ending_changeTask_eq]
      exact h.revise (revises_ending_endTask now r.id status t.id result)
  | cancel now t =>
      rw [canceling_eq]
      exact h.revise (revises_canceling now t.id)

end Integrity

end Store

/-! ### Moves -/

namespace Store

/-- What **any call** does to the store: it takes a step, or it adds work. -/
inductive Move (s : Store) : Store → Prop
  | step {s' : Store} (st : s.Step s') : Move s s'
  | addTask (now : Timestamp) (new : NewTask) (accepted : s.AcceptsTask new) :
      Move s { s with tasks := s.tasks ++ [s.newTask now new] }
  | addRun (now : Timestamp) (new : NewRun) (valid : new.validate = .ok ())
      (task : new.task ∈ s.tasks.map (·.id)) :
      Move s { s with runs := s.runs ++ [s.newRun now new] }
  | queueing (batch : List NewQueueItem) (accepted : s.AcceptsBatch batch) :
      Move s (s.queueing batch)

theorem Move.stay {s : Store} : s.Move s := .step .stay

/-- A **move** keeps the integrity of the store. -/
theorem Integrity.move {s s' : Store} (h : s.Integrity) (m : s.Move s') : s'.Integrity := by
  cases m with
  | step st => exact h.step st
  | addTask now new accepted => exact h.addTask accepted
  | addRun now new valid task => exact h.addRun valid task
  | queueing batch accepted => exact h.queueing accepted

end Store

/-- Every call **makes a move**. -/
theorem StoreCall.run_moves {s : Store} (h : s.Integrity) (call : StoreCall) (now : Timestamp) :
    s.Move (call.run now s).2 := by
  by_cases quiet : call.AddsNoWork
  · exact .step (call.run_step h quiet now)
  · cases call with
    | createTask new =>
        rcases Store.createTask_cases now new s with ⟨-, e, run⟩ | ⟨accepted, run⟩
        · rw [StoreCall.run, run]
          exact .stay
        · rw [StoreCall.run, run]
          exact .addTask now new accepted
    | createRun new =>
        rcases Store.createRun_cases now new s with ⟨-, e, run⟩ | ⟨⟨valid, task⟩, run⟩
        · rw [StoreCall.run, run]
          exact .stay
        · rw [StoreCall.run, run]
          exact .addRun now new valid task
    | enqueue batch =>
        rcases Store.enqueue_cases batch s with ⟨-, e, run⟩ | ⟨accepted, _, run, -⟩
        · rw [StoreCall.run, run]
          exact .stay
        · rw [StoreCall.run, run]
          exact .queueing batch accepted
    | _ => exact absurd trivial quiet

/-- Every call **keeps the integrity** of the store. -/
theorem StoreCall.run_integrity {s : Store} (h : s.Integrity) (call : StoreCall)
    (now : Timestamp) : (call.run now s).2.Integrity :=
  h.move (call.run_moves h now)

/-- So every operation does. -/
theorem Operation.Ends.integrity {α : Type} {op : Operation α} {s s' : Store} {tr : Trace}
    {res : Except OperationError α} (h : op.Ends s tr res s') (holds : s.Integrity) :
    s'.Integrity :=
  h.keeps (P := fun _ => True) (I := Store.Integrity)
    (fun call _ now _ holds => call.run_integrity holds now) (Program.calls_any _) holds

/-! ### What is only ever added -/

namespace Store

/-- Repositories, refs and submissions stay as they are, and more may be **added**. -/
structure Grows (s s' : Store) : Prop where
  repositories : s.repositories <+: s'.repositories
  refs : s.refs <+: s'.refs
  submissions : s.submissions <+: s'.submissions

theorem Grows.refl (s : Store) : s.Grows s :=
  ⟨List.prefix_rfl, List.prefix_rfl, List.prefix_rfl⟩

theorem Grows.trans {s s' s'' : Store} (h : s.Grows s') (h' : s'.Grows s'') : s.Grows s'' :=
  ⟨h.repositories.trans h'.repositories, h.refs.trans h'.refs, h.submissions.trans h'.submissions⟩

theorem Move.grows {s s' : Store} (m : s.Move s') : s.Grows s' := by
  cases m with
  | step st =>
      cases st with
      | addRepository now new name free =>
          exact { Grows.refl s with repositories := List.prefix_append _ _ }
      | addRef repository name sha valid known free =>
          exact { Grows.refl s with refs := List.prefix_append _ _ }
      | addSubmission now new base head =>
          exact { Grows.refl s with submissions := List.prefix_append _ _ }
      | _ => exact ⟨List.prefix_rfl, List.prefix_rfl, List.prefix_rfl⟩
  | _ => exact ⟨List.prefix_rfl, List.prefix_rfl, List.prefix_rfl⟩

end Store

/-- Every operation **leaves what there is** of repositories, refs and submissions. -/
theorem Operation.Ends.grows {α : Type} {op : Operation α} {s s' : Store} {tr : Trace}
    {res : Except OperationError α} (h : op.Ends s tr res s') (whole : s.Integrity) :
    s.Grows s' := by
  have kept := h.keeps (P := fun _ => True) (I := fun s' => s'.Integrity ∧ s.Grows s')
    (fun call _ now s' holds => ⟨call.run_integrity holds.1 now,
      holds.2.trans (call.run_moves holds.1 now).grows⟩)
    (Program.calls_any _) ⟨whole, .refl s⟩
  exact kept.2

end Dispatch
