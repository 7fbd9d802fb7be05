import Dispatch.Store.Basic

/-!
# Tasks and runs in the store

A task ends in one of two ways: its last open run gets a status, and the task's status sums up
those of its runs; or it is canceled, and with it its open runs.

## Main definitions

* `Store.createTask`, `Store.createRun`: adding work.
* `Store.finishRun`: recording the status of a run.
* `Store.cancelTask`: canceling a task.
* `Store.target`: where the statuses of a task are posted.
-/

namespace Dispatch

/-- Where the statuses of a task are **posted**: its repository, whose owner's credential is
used, and the commit under test. -/
structure TaskTarget where
  repository : Repository
  owner : Option User
  sha : String

namespace Store

/-! ### Tasks -/

/-- Adds a **task** with valid settings to a submission. -/
def createTask (now : Timestamp) (new : NewTask) : StoreM Task := do
  match new.settings.validate with
  | .error cause => throw (.invalid cause)
  | .ok _ =>
    let s ← get
    let _ ← look fun s => expect (s.submission? new.submission) ("submission " ++ new.submission.text)
    let _ ← look (·.repository new.repository)
    let task : Task := {
      id := .issued .task (s.tasks.length + 1)
      submission := new.submission
      repository := new.repository
      path := new.path
      settings := new.settings
      pullRequest := new.pullRequest
      canceled := false
      status := none
      createdAt := now
      startedAt := none
      finishedAt := none }
    set { s with tasks := s.tasks ++ [task] }
    return task

/-- The tasks of a submission in ascending order of their paths. -/
def tasksByPath (s : Store) (submission : Id) : List Task :=
  (s.tasksOf submission).mergeSort fun a b => a.path ≤ b.path

/-- The unfinished tasks whose submission tests the given ref name of a repository. -/
def openForRef (s : Store) (repository : Id) (name : String) : List Task :=
  s.tasks.filter fun t => t.status.isNone && !t.isFinished &&
    (s.testedRef? t.submission).any fun r => r.repository = repository && r.name = name

/-- The unfinished tasks for a pull request against the repository with the given name. -/
def openForPullRequest (s : Store) (repository : String) (pullRequest : Int64) : List Task :=
  s.tasks.filter fun t => t.pullRequest = some pullRequest && !t.isFinished &&
    (s.repository? t.repository).any fun r => r.name = repository

/-- The **target** of a task. -/
def target (s : Store) (task : Id) : Except StoreError TaskTarget := do
  let t ← s.task task
  let repository ← s.repository t.repository
  let submission ← s.submission t.submission
  return ⟨repository, repository.owner.bind s.user?, submission.tested.sha⟩

/-- A run that belongs to the task and has no status. -/
def isOpenRunOf (task : Id) (r : Run) : Bool := r.task = task && r.status.isNone

/-- A run that has got a status. -/
def endRun (now : Timestamp) (status : Bool) (r : Run) : Run :=
  { r with status := some status, finishedAt := some now }

/-- A task that has been canceled. -/
def endCanceled (now : Timestamp) (t : Task) : Task :=
  { t with canceled := true, status := some false, finishedAt := some now }

/-- **Cancels** an unfinished task: its open runs fail and leave the queue. Answers with these
runs in ascending order of their names. -/
def cancelTask (now : Timestamp) (task : Id) : StoreM (List Run) := do
  let s ← get
  let t ← look (·.task task)
  if t.isFinished then
    throw (.conflict ("task " ++ task.text ++ " was already finished; cannot cancel"))
  let canceled := (s.runs.filter (isOpenRunOf task)).map (endRun now false)
  let s := s.mapRuns fun r => if isOpenRunOf task r then endRun now false r else r
  set ((s.dropItems (canceled.map (·.id))).changeTask task (endCanceled now))
  return canceled.mergeSort fun a b => a.name ≤ b.name

/-! ### Runs -/

/-- Adds a valid **run** to a task. -/
def createRun (now : Timestamp) (new : NewRun) : StoreM Run := do
  match new.validate with
  | .error cause => throw (.invalid cause)
  | .ok _ =>
    let s ← get
    let _ ← look (·.task new.task)
    let run : Run := {
      id := .issued .run (s.runs.length + 1)
      task := new.task
      name := new.name
      settings := new.settings
      createdAt := now
      startedAt := none
      finishedAt := none
      status := none }
    set { s with runs := s.runs ++ [run] }
    return run

/-- The runs of a task in ascending order of their names. -/
def runsByName (s : Store) (task : Id) : List Run :=
  (s.runsOf task).mergeSort fun a b => a.name ≤ b.name

/-- What the statuses of all runs of a task sum up to, once each has one: success if all
succeeded. -/
def rolledUp? (runs : List Run) : Option Bool :=
  if runs.all (·.status.isSome) then some (runs.all (·.status = some true)) else none

/-- A task whose runs have all ended. -/
def endTask (now : Timestamp) (status : Bool) (t : Task) : Task :=
  { t with status := some status, finishedAt := some now }

/-- Records the **status of a run**, which leaves the queue. With the last open run an unfinished
task ends as well. -/
def finishRun (now : Timestamp) (id : Id) (status : Bool) : StoreM RunCompletion := do
  let run ← look (·.run id)
  if run.status.isSome then throw (.conflict ("status already set for run " ++ id.text))
  modify fun s => (s.changeRun id (endRun now status)).dropItems [id]
  let run := endRun now status run
  let task ← look (·.task run.task)
  if task.isFinished then return ⟨run, none⟩
  match rolledUp? ((← get).runsOf run.task) with
  | none => return ⟨run, none⟩
  | some result =>
    modify (·.changeTask run.task (endTask now result))
    return ⟨run, some result⟩

end Store

end Dispatch
