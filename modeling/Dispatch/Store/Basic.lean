import Dispatch.Queue.Item
import Dispatch.Queue.Page
import Dispatch.Store.Error
import Dispatch.Submission.Basic
import Dispatch.Task.Basic

/-!
# The store

All records of the dispatcher. Records are only ever added, in the order in which they are kept;
only queue items also leave. So the number of records of a kind gives the next identifier of that
kind, and for queue items the position that the next one takes.

## Main definitions

* `Store`: the records.
* `StoreM`: an operation on the store, which answers or fails and leaves a store behind.
* `Store.submission`, `Store.queueItem`: records as they are shown, with the records they refer to.
-/

namespace Dispatch

/-- A submission as it is **stored**; it refers to its refs. -/
structure StoredSubmission where
  id : Id
  base : Id
  head : Option Id
  submittedBy : Option Id
  ticket : Option Int64
  createdAt : Timestamp
deriving DecidableEq

namespace StoredSubmission

/-- The ref under test: the head, or the base if there is no head. -/
def tested (s : StoredSubmission) : Id := s.head.getD s.base

end StoredSubmission

/-- A queue item as it is **stored**; it refers to its run. -/
structure StoredItem where
  id : Id
  run : Id
  queue : String
  running : Bool
  runningOn : Option String
  startedAt : Option Timestamp
  /-- Items are handed out in the order of their positions. -/
  position : Nat
deriving DecidableEq

/-- The **store**. Records are in the order in which they were added, queue items in the order of
their positions. -/
structure Store where
  users : List User
  repositories : List Repository
  refs : List Ref
  submissions : List StoredSubmission
  tasks : List Task
  runs : List Run
  queue : List StoredItem
  /-- How many items have ever been put on the queue. -/
  nextPosition : Nat

/-- An **operation on the store**: it answers or fails, and in both cases leaves a store. -/
abbrev StoreM := ExceptT StoreError (StateM Store)

namespace Store

/-- The store without records. -/
def empty : Store := ⟨[], [], [], [], [], [], [], 0⟩

instance : Inhabited Store := ⟨empty⟩

/-! ### Single records -/

/-- A user by its identifier. -/
def user? (s : Store) (id : Id) : Option User := s.users.find? (·.id = id)

/-- A user by name. -/
def userNamed? (s : Store) (username : String) : Option User :=
  s.users.find? (·.username = username)

/-- A repository by its identifier. -/
def repository? (s : Store) (id : Id) : Option Repository := s.repositories.find? (·.id = id)

/-- A repository by name. -/
def repositoryNamed? (s : Store) (name : String) : Option Repository :=
  s.repositories.find? (·.name = name)

/-- A ref by its identifier. -/
def ref? (s : Store) (id : Id) : Option Ref := s.refs.find? (·.id = id)

/-- The ref of a repository for a commit. -/
def refFor? (s : Store) (repository : Id) (sha : String) : Option Ref :=
  s.refs.find? fun r => r.repository = repository && r.sha = sha

/-- A stored submission by its identifier. -/
def submission? (s : Store) (id : Id) : Option StoredSubmission :=
  s.submissions.find? (·.id = id)

/-- A task by its identifier. -/
def task? (s : Store) (id : Id) : Option Task := s.tasks.find? (·.id = id)

/-- A run by its identifier. -/
def run? (s : Store) (id : Id) : Option Run := s.runs.find? (·.id = id)

/-- The record, or the failure that says which one there is not. -/
def expect {α : Type} (record : Option α) (subject : String) : Except StoreError α :=
  match record with
  | some a => .ok a
  | none => .error (.notFound subject)

/-- The user with the identifier. -/
def user (s : Store) (id : Id) : Except StoreError User :=
  expect (s.user? id) ("user " ++ id.text)

/-- The repository with the identifier. -/
def repository (s : Store) (id : Id) : Except StoreError Repository :=
  expect (s.repository? id) ("repository " ++ id.text)

/-- The ref with the identifier. -/
def ref (s : Store) (id : Id) : Except StoreError Ref :=
  expect (s.ref? id) ("ref " ++ id.text)

/-- The task with the identifier. -/
def task (s : Store) (id : Id) : Except StoreError Task :=
  expect (s.task? id) ("task " ++ id.text)

/-- The run with the identifier. -/
def run (s : Store) (id : Id) : Except StoreError Run :=
  expect (s.run? id) ("run " ++ id.text)

/-! ### Records and what they refer to -/

/-- The tasks of a submission in the order in which they were added. -/
def tasksOf (s : Store) (submission : Id) : List Task :=
  s.tasks.filter (·.submission = submission)

/-- The runs of a task in the order in which they were added. -/
def runsOf (s : Store) (task : Id) : List Run := s.runs.filter (·.task = task)

/-- How many runs the tasks of a submission have. -/
def countRuns (s : Store) (submission : Id) : Nat :=
  let tasks := (s.tasksOf submission).map (·.id)
  s.runs.countP fun r => tasks.contains r.task

/-- A **submission** with its refs and the counts of its work. -/
def submission (s : Store) (id : Id) : Except StoreError Submission := do
  let stored ← expect (s.submission? id) ("submission " ++ id.text)
  let base ← s.ref stored.base
  let head ← stored.head.mapM s.ref
  return {
    id := stored.id
    base, head
    submittedBy := stored.submittedBy
    ticket := stored.ticket
    createdAt := stored.createdAt
    tasks := (s.tasksOf id).length
    runs := s.countRuns id }

/-- The ref under test by a task's submission. -/
def testedRef? (s : Store) (submission : Id) : Option Ref := do
  s.ref? (← s.submission? submission).tested

/-- A **queue item** with its run. -/
def queueItem (s : Store) (i : StoredItem) : Except StoreError QueueItem := do
  let run ← s.run i.run
  return {
    id := i.id
    run
    running := i.running
    runningOn := i.runningOn
    startedAt := i.startedAt
    queue := i.queue }

/-- The repository that a run is carried out for. -/
def repositoryOfRun? (s : Store) (run : Id) : Option Id := do
  return (← s.task? (← s.run? run).task).repository

/-! ### Changing records -/

/-- The store with every run replaced. -/
def mapRuns (s : Store) (f : Run → Run) : Store := { s with runs := s.runs.map f }

/-- The store with the task of the given identifier replaced. -/
def changeTask (s : Store) (id : Id) (f : Task → Task) : Store :=
  { s with tasks := s.tasks.map fun t => if t.id = id then f t else t }

/-- The store with the run of the given identifier replaced. -/
def changeRun (s : Store) (id : Id) (f : Run → Run) : Store :=
  s.mapRuns fun r => if r.id = id then f r else r

/-- The store with the queue item at the given position replaced. -/
def changeItem (s : Store) (position : Nat) (f : StoredItem → StoredItem) : Store :=
  { s with queue := s.queue.map fun i => if i.position = position then f i else i }

/-- The store without queue items for the given runs. -/
def dropItems (s : Store) (runs : List Id) : Store :=
  { s with queue := s.queue.filter fun i => !runs.contains i.run }

/-- The answer that the store gives by itself, without a change. -/
def look {α : Type} (f : Store → Except StoreError α) : StoreM α := fun s => (f s, s)

end Store

end Dispatch
