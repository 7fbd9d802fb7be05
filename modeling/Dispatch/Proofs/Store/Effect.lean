import Dispatch.Store.Call
import Mathlib.Data.List.Nodup

/-!
# What the operations of the store do

For each operation that changes the store: when it is refused, in which case the store stays as
it is, and otherwise what it answers and which store it leaves. Whoever reasons about the store
uses these cases and never opens an operation.

## Main definitions

* `Store.newTask`, `Store.newRun` and others: the records that operations add.
* `Store.newItems`: the queue items for a batch.
* `Store.canceling`, `Store.ending`, `Store.claiming`: the stores that operations on existing
  records leave.

## Main results

* `Store.createTask_cases`, `Store.cancelTask_cases`, `Store.finishRun_cases`,
  `Store.dequeue_cases` and others: the cases of an operation.
* `Store.enqueue_cases`: a batch without faults is put on the queue as a whole.
-/

namespace Dispatch

/-! ### Running operations -/

namespace StoreM

variable {α β : Type}

theorem bind_run (m : StoreM α) (f : α → StoreM β) (s : Store) :
    (m >>= f) s = match m s with
      | (.ok a, s') => f a s'
      | (.error e, s') => (.error e, s') := by
  change (ExceptT.bindCont f (m s).1) (m s).2 = _
  rcases m s with ⟨_ | a, s'⟩ <;> rfl

@[simp] theorem pure_run (a : α) (s : Store) : (pure a : StoreM α) s = (.ok a, s) := rfl

@[simp] theorem throw_run (e : StoreError) (s : Store) :
    (throw e : StoreM α) s = (.error e, s) := rfl

@[simp] theorem get_run (s : Store) : (get : StoreM Store) s = (.ok s, s) := rfl

@[simp] theorem set_run (s s' : Store) : (set s' : StoreM PUnit) s = (.ok ⟨⟩, s') := rfl

@[simp] theorem modify_run (f : Store → Store) (s : Store) :
    (modify f : StoreM PUnit) s = (.ok ⟨⟩, f s) := rfl

@[simp] theorem look_run (f : Store → Except StoreError α) (s : Store) :
    (Store.look f : StoreM α) s = (f s, s) := rfl

end StoreM

/-- A stored item with its run, as it is **shown**. -/
def StoredItem.withRun (i : StoredItem) (run : Run) : QueueItem where
  id := i.id
  run := run
  running := i.running
  runningOn := i.runningOn
  startedAt := i.startedAt
  queue := i.queue

namespace Store

open StoreM

/-! ### Looking records up -/

@[simp] theorem expect_eq_ok {α : Type} {record : Option α} {subject : String} {a : α} :
    expect record subject = .ok a ↔ record = some a := by
  cases record <;> simp [expect]

/-- A record that is there is found, and one that is found is there. -/
theorem expect_cases {α : Type} (record : Option α) (subject : String) :
    (record = none ∧ expect record subject = .error (.notFound subject)) ∨
      ∃ a, record = some a ∧ expect record subject = .ok a := by
  cases record with
  | none => exact .inl ⟨rfl, rfl⟩
  | some a => exact .inr ⟨a, rfl, rfl⟩

theorem find?_id_isSome {α : Type} {l : List α} {key : α → Id} {id : Id} :
    (∃ a, l.find? (fun x => key x = id) = some a) ↔ id ∈ l.map key := by
  rw [← Option.isSome_iff_exists, List.find?_isSome]
  simp only [decide_eq_true_eq, List.mem_map]

theorem exists_ref {s : Store} {id : Id} :
    (∃ r, s.ref id = .ok r) ↔ id ∈ s.refs.map (·.id) := by
  simp only [ref, expect_eq_ok, ref?, find?_id_isSome]

theorem exists_repository {s : Store} {id : Id} :
    (∃ r, s.repository id = .ok r) ↔ id ∈ s.repositories.map (·.id) := by
  simp only [repository, expect_eq_ok, repository?, find?_id_isSome]

theorem exists_task {s : Store} {id : Id} :
    (∃ t, s.task id = .ok t) ↔ id ∈ s.tasks.map (·.id) := by
  simp only [task, expect_eq_ok, task?, find?_id_isSome]

theorem exists_run {s : Store} {id : Id} :
    (∃ r, s.run id = .ok r) ↔ id ∈ s.runs.map (·.id) := by
  simp only [run, expect_eq_ok, run?, find?_id_isSome]

/-! ### Adding users, repositories, refs and submissions -/

/-- The user that is added next. -/
def newUser (s : Store) (now : Timestamp) (username token : String) : User :=
  ⟨.issued .user (s.users.length + 1), username, token, now⟩

theorem createUser_cases (now : Timestamp) (username token : String) (s : Store) :
    (∃ e, createUser now username token s = (.error e, s)) ∨
      s.userNamed? username = none ∧
        createUser now username token s = (.ok (s.newUser now username token),
          { s with users := s.users ++ [s.newUser now username token] }) := by
  rw [createUser, bind_run, get_run]
  dsimp only
  cases named : s.userNamed? username with
  | some u => exact .inl ⟨_, rfl⟩
  | none => exact .inr ⟨rfl, rfl⟩

/-- The repository that is added next. -/
def newRepository (s : Store) (now : Timestamp) (new : NewRepository) : Repository where
  id := .issued .repository (s.repositories.length + 1)
  name := new.name
  isPrivate := new.isPrivate
  disabled := new.disabled
  defaultBranch := new.defaultBranch
  metadata := new.metadata
  owner := new.owner
  hookSecret := if new.disabled then none else new.hookSecret
  createdAt := now

theorem createRepository_cases (now : Timestamp) (new : NewRepository) (s : Store) :
    (∃ e, createRepository now new s = (.error e, s)) ∨
      Repository.isName new.name = true ∧ s.repositoryNamed? new.name = none ∧
        createRepository now new s = (.ok (s.newRepository now new),
          { s with repositories := s.repositories ++ [s.newRepository now new] }) := by
  rw [createRepository, bind_run, get_run]
  dsimp only
  cases name : Repository.split new.name with
  | error cause => exact .inl ⟨_, rfl⟩
  | ok parts =>
      cases named : s.repositoryNamed? new.name with
      | some r => exact .inl ⟨_, rfl⟩
      | none =>
          exact .inr ⟨by simp [Repository.isName, name, Except.isOk, Except.toBool], rfl, rfl⟩

/-- The ref that is added next. -/
def newRef (s : Store) (repository : Id) (name sha : String) : Ref :=
  ⟨.issued .gitRef (s.refs.length + 1), repository, name, sha⟩

theorem findOrCreateRef_cases (repository : Id) (name sha : String) (s : Store) :
    (∃ e, findOrCreateRef repository name sha s = (.error e, s)) ∨
    (∃ known, s.refFor? repository sha = some known ∧
      findOrCreateRef repository name sha s = (.ok known, s)) ∨
      Ref.validate name sha = .ok () ∧ repository ∈ s.repositories.map (·.id) ∧
        s.refFor? repository sha = none ∧
        findOrCreateRef repository name sha s = (.ok (s.newRef repository name sha),
          { s with refs := s.refs ++ [s.newRef repository name sha] }) := by
  rw [findOrCreateRef]
  cases valid : Ref.validate name sha with
  | error cause => exact .inl ⟨_, rfl⟩
  | ok _ =>
      dsimp only
      rw [bind_run, get_run]
      dsimp only
      rw [bind_run, look_run]
      cases known : s.repository repository with
      | error e => exact .inl ⟨_, rfl⟩
      | ok r =>
          cases found : s.refFor? repository sha with
          | some ref => exact .inr (.inl ⟨ref, rfl, rfl⟩)
          | none => exact .inr (.inr ⟨rfl, exists_repository.mp ⟨r, known⟩, rfl, rfl⟩)

/-- The submission that is added next. -/
def newSubmission (s : Store) (now : Timestamp) (new : NewSubmission) : StoredSubmission where
  id := .issued .submission (s.submissions.length + 1)
  base := new.base
  head := new.head
  submittedBy := new.submittedBy
  ticket := new.ticket
  createdAt := now

/-- The store with a **submission** more. -/
def addSubmission (s : Store) (now : Timestamp) (new : NewSubmission) : Store :=
  { s with submissions := s.submissions ++ [s.newSubmission now new] }

/-- A submission is added exactly if its refs are there. -/
theorem createSubmission_cases (now : Timestamp) (new : NewSubmission) (s : Store) :
    (¬ (new.base ∈ s.refs.map (·.id) ∧
        ∀ head, new.head = some head → head ∈ s.refs.map (·.id)) ∧
      ∃ e, createSubmission now new s = (.error e, s)) ∨
    (new.base ∈ s.refs.map (·.id) ∧ (∀ head, new.head = some head → head ∈ s.refs.map (·.id)) ∧
      createSubmission now new s =
        ((s.addSubmission now new).submission (s.newSubmission now new).id,
          s.addSubmission now new)) := by
  rw [createSubmission, bind_run, get_run]
  dsimp only
  rw [bind_run, look_run]
  cases base : s.ref new.base with
  | error e =>
      refine .inl ⟨fun known => ?_, e, rfl⟩
      obtain ⟨r, found⟩ := exists_ref.mpr known.1
      rw [base] at found
      cases found
  | ok r =>
      have baseKnown := exists_ref.mp ⟨r, base⟩
      cases head : new.head with
      | none =>
          exact .inr ⟨baseKnown, by simp, by simp [bind_run, addSubmission, newSubmission, head]⟩
      | some id =>
          dsimp only
          rw [bind_run, look_run]
          cases found : s.ref id with
          | error e =>
              refine .inl ⟨fun known => ?_, e, rfl⟩
              obtain ⟨r, found'⟩ := exists_ref.mpr (known.2 id rfl)
              rw [found] at found'
              cases found'
          | ok q =>
              refine .inr ⟨baseKnown, ?_, by simp [bind_run, addSubmission, newSubmission, head]⟩
              rintro _ ⟨⟩
              exact exists_ref.mp ⟨q, found⟩

/-! ### Adding tasks and runs -/

/-- The task that is added next. -/
def newTask (s : Store) (now : Timestamp) (new : NewTask) : Task where
  id := .issued .task (s.tasks.length + 1)
  submission := new.submission
  repository := new.repository
  path := new.path
  settings := new.settings
  pullRequest := new.pullRequest
  canceled := false
  status := none
  createdAt := now
  startedAt := none
  finishedAt := none

/-- A task can be added: its settings are valid and what it refers to is there. -/
structure AcceptsTask (s : Store) (new : NewTask) : Prop where
  valid : new.settings.validate = .ok ()
  submission : new.submission ∈ s.submissions.map (·.id)
  repository : new.repository ∈ s.repositories.map (·.id)

/-- A task is added exactly if it can be. -/
theorem createTask_cases (now : Timestamp) (new : NewTask) (s : Store) :
    (¬ s.AcceptsTask new ∧ ∃ e, createTask now new s = (.error e, s)) ∨
      s.AcceptsTask new ∧ createTask now new s =
        (.ok (s.newTask now new), { s with tasks := s.tasks ++ [s.newTask now new] }) := by
  rw [createTask]
  cases valid : new.settings.validate with
  | error cause =>
      refine .inl ⟨fun accepted => ?_, _, rfl⟩
      cases valid.symm.trans accepted.valid
  | ok _ =>
      dsimp only
      rw [bind_run, get_run]
      dsimp only
      rw [bind_run, look_run]
      rcases expect_cases (s.submission? new.submission) ("submission " ++ new.submission.text) with
        ⟨missing, error⟩ | ⟨x, found, ok⟩
      · refine .inl ⟨fun accepted => ?_, _, by rw [error]⟩
        obtain ⟨x, found⟩ := find?_id_isSome.mpr accepted.submission
        cases missing.symm.trans found
      · rw [ok]
        dsimp only
        rw [bind_run, look_run]
        cases known : s.repository new.repository with
        | error e =>
            refine .inl ⟨fun accepted => ?_, _, rfl⟩
            obtain ⟨r, found⟩ := exists_repository.mpr accepted.repository
            cases known.symm.trans found
        | ok r =>
            exact .inr ⟨⟨valid, find?_id_isSome.mp ⟨x, found⟩,
              exists_repository.mp ⟨r, known⟩⟩, rfl⟩

/-- The run that is added next. -/
def newRun (s : Store) (now : Timestamp) (new : NewRun) : Run where
  id := .issued .run (s.runs.length + 1)
  task := new.task
  name := new.name
  settings := new.settings
  createdAt := now
  startedAt := none
  finishedAt := none
  status := none

/-- A run is added exactly if it is valid and its task is there. -/
theorem createRun_cases (now : Timestamp) (new : NewRun) (s : Store) :
    (¬ (new.validate = .ok () ∧ new.task ∈ s.tasks.map (·.id)) ∧
      ∃ e, createRun now new s = (.error e, s)) ∨
      (new.validate = .ok () ∧ new.task ∈ s.tasks.map (·.id)) ∧ createRun now new s =
        (.ok (s.newRun now new), { s with runs := s.runs ++ [s.newRun now new] }) := by
  rw [createRun]
  cases valid : new.validate with
  | error cause =>
      refine .inl ⟨fun accepted => ?_, _, rfl⟩
      cases accepted.1
  | ok _ =>
      dsimp only
      rw [bind_run, get_run]
      dsimp only
      rw [bind_run, look_run]
      cases known : s.task new.task with
      | error e =>
          refine .inl ⟨fun accepted => ?_, _, rfl⟩
          obtain ⟨t, found⟩ := exists_task.mpr accepted.2
          cases known.symm.trans found
      | ok t => exact .inr ⟨⟨rfl, exists_task.mp ⟨t, known⟩⟩, rfl⟩

/-! ### Ending tasks and runs -/

/-- The store in which a task has been **canceled**: its open runs have failed and left the
queue. -/
def canceling (s : Store) (now : Timestamp) (task : Id) : Store :=
  ((s.mapRuns fun r => if isOpenRunOf task r then endRun now false r else r).dropItems
    (((s.runs.filter (isOpenRunOf task)).map (endRun now false)).map (·.id))).changeTask task
      (endCanceled now)

/-- The runs that end with a canceled task, in ascending order of their names. -/
def canceledRuns (s : Store) (now : Timestamp) (task : Id) : List Run :=
  ((s.runs.filter (isOpenRunOf task)).map (endRun now false)).mergeSort fun a b =>
    a.name ≤ b.name

/-- Canceling is refused for a task that is not there or has finished. -/
theorem cancelTask_cases (now : Timestamp) (task : Id) (s : Store) :
    (s.task? task = none ∧ ∃ subject, cancelTask now task s = (.error (.notFound subject), s)) ∨
    (∃ t, s.task? task = some t ∧ t.isFinished = true ∧
      ∃ reason, cancelTask now task s = (.error (.conflict reason), s)) ∨
    ∃ t, s.task? task = some t ∧ t.isFinished = false ∧
      cancelTask now task s = (.ok (s.canceledRuns now task), s.canceling now task) := by
  rw [cancelTask, bind_run, get_run]
  dsimp only
  rw [bind_run, look_run, Store.task]
  rcases expect_cases (s.task? task) ("task " ++ task.text) with ⟨missing, error⟩ | ⟨t, found, ok⟩
  · exact .inl ⟨missing, _, by rw [error]⟩
  · rw [ok]
    cases finished : t.isFinished with
    | true =>
        refine .inr (.inl ⟨t, found, finished,
          "task " ++ task.text ++ " was already finished; cannot cancel", ?_⟩)
        simp only [finished, if_true]
        rfl
    | false =>
        refine .inr (.inr ⟨t, found, finished, ?_⟩)
        simp only [finished, Bool.false_eq_true, if_false]
        rfl

/-- The store in which a run has got a **status** and has left the queue. -/
def ending (s : Store) (now : Timestamp) (run : Id) (status : Bool) : Store :=
  (s.changeRun run (endRun now status)).dropItems [run]

/-- Recording a status is refused for a run that is not there or has one; else the run ends, and
its task with it if that was its last open run. -/
theorem finishRun_cases (now : Timestamp) (id : Id) (status : Bool) (s : Store) :
    ((∀ r, s.run? id = some r → r.status.isSome = true) ∧
      ∃ e, finishRun now id status s = (.error e, s)) ∨
    ∃ r, s.run? id = some r ∧ r.status = none ∧
      ((s.task? r.task = none ∧
        ∃ e, finishRun now id status s = (.error e, s.ending now id status)) ∨
      (∃ t, s.task? r.task = some t ∧
        (t.isFinished = true ∨ rolledUp? ((s.ending now id status).runsOf r.task) = none) ∧
        finishRun now id status s =
          (.ok ⟨endRun now status r, none⟩, s.ending now id status)) ∨
      ∃ t result, s.task? r.task = some t ∧ t.isFinished = false ∧
        rolledUp? ((s.ending now id status).runsOf r.task) = some result ∧
        finishRun now id status s = (.ok ⟨endRun now status r, some result⟩,
          (s.ending now id status).changeTask r.task (endTask now result))) := by
  rw [finishRun, bind_run, look_run, Store.run]
  rcases expect_cases (s.run? id) ("run " ++ id.text) with ⟨missing, error⟩ | ⟨r, found, ok⟩
  · refine .inl ⟨fun r found => ?_, _, by rw [error]⟩
    cases missing.symm.trans found
  · rw [ok]
    dsimp only
    cases recorded : r.status with
    | some b =>
        refine .inl ⟨fun q found' => ?_, _, rfl⟩
        obtain rfl : r = q := Option.some.inj (found.symm.trans found')
        rw [recorded]
        rfl
    | none =>
        refine .inr ⟨r, found, recorded, ?_⟩
        simp only [Option.isSome_none, Bool.false_eq_true, if_false]
        rw [bind_run, modify_run]
        dsimp only
        rw [bind_run, look_run, Store.task]
        have tasks : ((s.changeRun id (endRun now status)).dropItems [id]).task?
            (endRun now status r).task = s.task? r.task := rfl
        rw [tasks]
        change _ ∨ _
        rcases expect_cases (s.task? r.task) ("task " ++ (endRun now status r).task.text) with
          ⟨missing, error⟩ | ⟨t, known, ok⟩
        · refine .inl ⟨missing, .notFound ("task " ++ r.task.text), ?_⟩
          rw [error]
          rfl
        · rw [ok]
          dsimp only
          cases finished : t.isFinished with
          | true => exact .inr (.inl ⟨t, known, .inl finished, by simp only [if_true]; rfl⟩)
          | false =>
              simp only [Bool.false_eq_true, if_false]
              rw [bind_run, get_run]
              dsimp only
              have runs : ((s.changeRun id (endRun now status)).dropItems [id]).runsOf
                  (endRun now status r).task = (s.ending now id status).runsOf r.task := rfl
              rw [runs]
              cases result : rolledUp? ((s.ending now id status).runsOf r.task) with
              | none => exact .inr (.inl ⟨t, known, .inr rfl, rfl⟩)
              | some b => exact .inr (.inr ⟨t, b, known, finished, rfl, rfl⟩)

/-- A run **keeps its status**: recording another one is in conflict with it. -/
theorem finishRun_ended {id : Id} {s : Store} {r : Run} (found : s.run? id = some r)
    (ended : r.status.isSome = true) (now : Timestamp) (status : Bool) :
    ∃ reason, finishRun now id status s = (.error (.conflict reason), s) := by
  refine ⟨"status already set for run " ++ id.text, ?_⟩
  rw [finishRun, bind_run, look_run, Store.run, expect_eq_ok.mpr found]
  simp only [ended, if_true]
  rfl

/-- A task that is not there **cannot be canceled**. -/
theorem cancelTask_missing {id : Id} {s : Store} (missing : s.task? id = none) (now : Timestamp) :
    cancelTask now id s = (.error (.notFound ("task " ++ id.text)), s) := by
  rw [cancelTask, bind_run, get_run]
  dsimp only
  rw [bind_run, look_run, Store.task, missing]
  rfl

/-- A finished task **stays as it is**: canceling it is in conflict with that. -/
theorem cancelTask_conflict {id : Id} {s : Store} {t : Task} (found : s.task? id = some t)
    (finished : t.isFinished = true) (now : Timestamp) : cancelTask now id s =
      (.error (.conflict ("task " ++ id.text ++ " was already finished; cannot cancel")), s) := by
  rw [cancelTask, bind_run, get_run]
  dsimp only
  rw [bind_run, look_run, Store.task, expect_eq_ok.mpr found]
  simp only [finished, if_true]
  rfl

/-- An unfinished task **is canceled**. -/
theorem cancelTask_ok {id : Id} {s : Store} {t : Task} (found : s.task? id = some t)
    (unfinished : t.isFinished = false) (now : Timestamp) :
    cancelTask now id s = (.ok (s.canceledRuns now id), s.canceling now id) := by
  rcases cancelTask_cases now id s with
    ⟨missing, -⟩ | ⟨u, found', finished, -⟩ | ⟨u, -, -, run⟩
  · cases missing.symm.trans found
  · obtain rfl : t = u := Option.some.inj (found.symm.trans found')
    cases finished.symm.trans unfinished
  · exact run

/-! ### The queue -/

/-- An item that waits at a position. -/
def waitingItem (position : Nat) (new : NewQueueItem) : StoredItem where
  id := .issued .queueItem (position + 1)
  run := new.run
  queue := new.queue
  running := false
  runningOn := none
  startedAt := none
  position := position

/-- The items of a batch, from a position on. -/
def newItems (position : Nat) : List NewQueueItem → List StoredItem
  | [] => []
  | new :: rest => waitingItem position new :: newItems (position + 1) rest

@[simp] theorem newItems_map_run (position : Nat) (batch : List NewQueueItem) :
    (newItems position batch).map (·.run) = batch.map (·.run) := by
  induction batch generalizing position with
  | nil => rfl
  | cons new rest ih => rw [newItems, List.map_cons, ih, List.map_cons, waitingItem]

/-- Each item of a batch waits at one of the next positions. -/
theorem mem_newItems {position : Nat} {batch : List NewQueueItem} {i : StoredItem}
    (h : i ∈ newItems position batch) :
    ∃ new ∈ batch, i = waitingItem i.position new ∧ position ≤ i.position ∧
      i.position < position + batch.length := by
  induction batch generalizing position with
  | nil => cases h
  | cons new rest ih =>
      rcases List.mem_cons.mp h with rfl | later
      · exact ⟨new, List.mem_cons_self, rfl, Nat.le_refl _, by simp [waitingItem]⟩
      · obtain ⟨new', mem, eq, le, lt⟩ := ih later
        refine ⟨new', List.mem_cons_of_mem _ mem, eq, by omega, ?_⟩
        rw [List.length_cons]
        omega

theorem newItems_ascending (position : Nat) (batch : List NewQueueItem) :
    ((newItems position batch).map (·.position)).Pairwise (· < ·) := by
  induction batch generalizing position with
  | nil => exact .nil
  | cons new rest ih =>
      refine List.pairwise_cons.mpr ⟨?_, ih _⟩
      intro p later
      obtain ⟨i, mem, rfl⟩ := List.mem_map.mp later
      obtain ⟨_, _, _, le, _⟩ := mem_newItems mem
      change position < i.position
      omega

/-- A batch **can be put on the queue**: each item has a queue and a run that is there, and no run
would be on the queue twice. -/
structure AcceptsBatch (s : Store) (batch : List NewQueueItem) : Prop where
  queue : ∀ new ∈ batch, new.queue ≠ ""
  run : ∀ new ∈ batch, new.run ∈ s.runs.map (·.id)
  waiting : ∀ new ∈ batch, new.run ∉ s.queue.map (·.run)
  distinct : (batch.map (·.run)).Nodup

theorem checkBatch_cons_eq_ok {s : Store} {earlier : List Id} {new : NewQueueItem}
    {rest : List NewQueueItem} :
    s.checkBatch earlier (new :: rest) = .ok () ↔
      new.queue ≠ "" ∧ new.run ∈ s.runs.map (·.id) ∧ new.run ∉ s.queue.map (·.run) ∧
        new.run ∉ earlier ∧ s.checkBatch (new.run :: earlier) rest = .ok () := by
  rw [checkBatch, QueueItem.validateQueue]
  by_cases queue : new.queue = ""
  · rw [queue]
    exact ⟨fun h => (nomatch h), fun h => absurd rfl h.1⟩
  · rw [if_neg (by simpa using queue)]
    dsimp only
    cases found : s.run new.run with
    | error e =>
        refine ⟨fun h => (nomatch h), fun h => ?_⟩
        obtain ⟨r, known⟩ := exists_run.mpr h.2.1
        cases found.symm.trans known
    | ok r =>
        have known := exists_run.mp ⟨r, found⟩
        change (if _ then _ else _) = _ ↔ _
        by_cases twice : (s.queue.any fun i => i.run = new.run) || earlier.contains new.run
        · rw [if_pos twice]
          refine ⟨fun h => (nomatch h), fun h => ?_⟩
          simp at twice h
          grind
        · rw [if_neg twice]
          simp at twice ⊢
          grind

theorem acceptsBatch_cons {s : Store} {new : NewQueueItem} {rest : List NewQueueItem} :
    s.AcceptsBatch (new :: rest) ↔
      new.queue ≠ "" ∧ new.run ∈ s.runs.map (·.id) ∧ new.run ∉ s.queue.map (·.run) ∧
        (∀ x ∈ rest, x.run ≠ new.run) ∧ s.AcceptsBatch rest := by
  constructor
  · rintro ⟨queue, run, waiting, distinct⟩
    obtain ⟨once, distinct⟩ := List.nodup_cons.mp distinct
    obtain ⟨first, queue⟩ := List.forall_mem_cons.mp queue
    obtain ⟨first', run⟩ := List.forall_mem_cons.mp run
    obtain ⟨first'', waiting⟩ := List.forall_mem_cons.mp waiting
    refine ⟨first, first', first'', fun x mem same => ?_, queue, run, waiting, distinct⟩
    exact once (List.mem_map.mpr ⟨x, mem, same⟩)
  · rintro ⟨first, first', first'', once, queue, run, waiting, distinct⟩
    refine ⟨List.forall_mem_cons.mpr ⟨first, queue⟩, List.forall_mem_cons.mpr ⟨first', run⟩,
      List.forall_mem_cons.mpr ⟨first'', waiting⟩, List.nodup_cons.mpr ⟨fun again => ?_, distinct⟩⟩
    obtain ⟨x, mem, same⟩ := List.mem_map.mp again
    exact once x mem same

/-- The checks pass exactly for the batches that can be put on the queue. -/
theorem checkBatch_eq_ok {s : Store} {earlier : List Id} {batch : List NewQueueItem} :
    s.checkBatch earlier batch = .ok () ↔
      s.AcceptsBatch batch ∧ ∀ new ∈ batch, new.run ∉ earlier := by
  induction batch generalizing earlier with
  | nil => exact ⟨fun _ => ⟨⟨by simp, by simp, by simp, .nil⟩, by simp⟩, fun _ => rfl⟩
  | cons new rest ih =>
      rw [checkBatch_cons_eq_ok, ih, acceptsBatch_cons]
      simp only [List.mem_cons, not_or]
      grind

/-- The store with a batch at the end of the queue. -/
def queueing (s : Store) (batch : List NewQueueItem) : Store :=
  { s with
    queue := s.queue ++ newItems s.nextPosition batch
    nextPosition := s.nextPosition + batch.length }

theorem queueItem_eq_ok {s : Store} {i : StoredItem} {x : QueueItem} :
    s.queueItem i = .ok x ↔ ∃ run, s.run? i.run = some run ∧ x = i.withRun run := by
  rw [queueItem]
  cases found : s.run i.run with
  | error e =>
      constructor
      · intro impossible
        cases impossible
      · rintro ⟨run, known, -⟩
        cases found.symm.trans (expect_eq_ok.mpr known)
  | ok run =>
      have known := expect_eq_ok.mp found
      constructor
      · intro shown
        exact ⟨run, known, (Except.ok.inj shown).symm⟩
      · rintro ⟨run', known', rfl⟩
        obtain rfl : run = run' := Option.some.inj (known.symm.trans known')
        rfl

/-- What the items of a batch show: each the run that it is of. -/
def Shows (s : Store) : List StoredItem → List QueueItem → Prop :=
  List.Forall₂ fun i x => ∃ run, s.run? i.run = some run ∧ x = i.withRun run

theorem enqueueOne_ok {s : Store} {new : NewQueueItem} (known : new.run ∈ s.runs.map (·.id)) :
    ∃ run, s.run? new.run = some run ∧ enqueueOne new s =
      (.ok ((waitingItem s.nextPosition new).withRun run), s.queueing [new]) := by
  obtain ⟨run, found⟩ := find?_id_isSome.mpr known
  have shown : s.queueItem (s.nextItem new) =
      .ok ((waitingItem s.nextPosition new).withRun run) :=
    queueItem_eq_ok.mpr ⟨run, found, rfl⟩
  refine ⟨run, found, ?_⟩
  rw [enqueueOne, bind_run, get_run]
  dsimp only
  rw [bind_run, look_run, shown]
  rfl

theorem queueing_cons (s : Store) (new : NewQueueItem) (rest : List NewQueueItem) :
    (s.queueing [new]).queueing rest = s.queueing (new :: rest) := by
  simp only [queueing, newItems, List.append_assoc, List.singleton_append, List.length_cons,
    List.length_nil]
  congr 1
  omega

/-- Runs that are there are put on the queue one after the other. -/
theorem enqueueAll_ok {s : Store} {batch : List NewQueueItem}
    (known : ∀ new ∈ batch, new.run ∈ s.runs.map (·.id)) :
    ∃ shown, batch.mapM enqueueOne s = (.ok shown, s.queueing batch) ∧
      s.Shows (newItems s.nextPosition batch) shown := by
  induction batch generalizing s with
  | nil => exact ⟨[], by simp [queueing, newItems], .nil⟩
  | cons new rest ih =>
      obtain ⟨first, known⟩ := List.forall_mem_cons.mp known
      obtain ⟨run, found, one⟩ := enqueueOne_ok first
      obtain ⟨shown, all, shows⟩ := ih (s := s.queueing [new]) known
      refine ⟨(waitingItem s.nextPosition new).withRun run :: shown, ?_, ?_⟩
      · rw [List.mapM_cons, bind_run, one]
        dsimp only
        rw [bind_run, all, queueing_cons]
        rfl
      · exact .cons ⟨run, found, rfl⟩ shows

/-- A **batch** is put on the queue as a whole if it can be, and else not at all. -/
theorem enqueue_cases (batch : List NewQueueItem) (s : Store) :
    (¬ s.AcceptsBatch batch ∧ ∃ e, enqueue batch s = (.error e, s)) ∨
    s.AcceptsBatch batch ∧ ∃ shown, enqueue batch s = (.ok shown, s.queueing batch) ∧
      s.Shows (newItems s.nextPosition batch) shown := by
  have start : enqueue batch s = match s.checkBatch [] batch with
      | .ok _ => batch.mapM enqueueOne s
      | .error e => (.error e, s) := by
    rw [enqueue, bind_run, look_run]
    cases s.checkBatch [] batch <;> rfl
  cases checked : s.checkBatch [] batch with
  | error e =>
      refine .inl ⟨fun accepted => ?_, e, by rw [start, checked]⟩
      cases checked.symm.trans (checkBatch_eq_ok.mpr ⟨accepted, by simp⟩)
  | ok _ =>
      obtain ⟨accepted, -⟩ := checkBatch_eq_ok.mp checked
      obtain ⟨shown, all, shows⟩ := enqueueAll_ok accepted.run
      exact .inr ⟨accepted, shown, by rw [start, checked]; exact all, shows⟩

/-- The store in which an item has been **claimed** and its run has started. -/
def claiming (s : Store) (now : Timestamp) (worker : String) (i : StoredItem) (run : Run) : Store :=
  ((s.changeItem i.position (claim now worker)).changeRun run.id (startRun now)).changeTask
    run.task (startTask now)

theorem dequeue_cases (now : Timestamp) (queue worker : String) (s : Store) :
    (s.waiting? queue = none ∧ ∃ subject,
      dequeue now queue worker s = (.error (.notFound subject), s)) ∨
    ∃ i, s.waiting? queue = some i ∧
      ((s.run? i.run = none ∧ ∃ e, dequeue now queue worker s =
        (.error e, s.changeItem i.position (claim now worker))) ∨
      ∃ run, s.run? i.run = some run ∧ dequeue now queue worker s =
        ((s.claiming now worker i run).queueItem (claim now worker i),
          s.claiming now worker i run)) := by
  rw [dequeue, bind_run, get_run]
  dsimp only
  cases found : s.waiting? queue with
  | none => exact .inl ⟨rfl, _, rfl⟩
  | some i =>
      refine .inr ⟨i, rfl, ?_⟩
      dsimp only
      rw [bind_run, set_run]
      dsimp only
      cases run : s.run? i.run with
      | none => exact .inl ⟨rfl, _, rfl⟩
      | some r => exact .inr ⟨r, rfl, rfl⟩

end Store

end Dispatch
