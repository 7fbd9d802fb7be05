import Dispatch.Operation.Basic
import Dispatch.Text.Blank

/-!
# What workers ask for

Workers claim items, record the status of the runs that they carry out, and ask whether a run
has been canceled meanwhile.

## Main definitions

* `Worker.next`: claims an item.
* `Worker.setStatus`: records the status of a run.
* `Worker.isCanceled`: whether the task of a run has been canceled.
* `Worker.listQueue`, `Worker.countQueue`: what is on the queue.
-/

namespace Dispatch.Worker

open Operation

/-- No credential can be used for a repository without an owner. -/
def noOwner (repository : Repository) : DomainError :=
  .forbidden ("no owner for repository " ++ repository.name)

/-- A notification for the owner of a task's repository. -/
def noticeTo (target : TaskTarget) (owner : User) (report : Report) : Notification where
  token := owner.token
  repository := target.repository.name
  sha := target.sha
  report := report

/-- **Claims** the oldest item that waits on a queue. A run whose repository has no owner cannot
be reported on, so it fails. -/
def next (queue worker : String) : Operation QueueItem := do
  if Text.allBlank worker then fail (DomainError.invalidInput "running_on is required")
  let item ← store (.dequeue (Queue.nameOrDefault queue) worker)
  let target ← stage "resolving run target" (store (.getTarget item.run.task))
  match target.owner with
  | none =>
    let _ ← tryStore (.finishRun item.run.id false)
    fail (noOwner target.repository)
  | some owner =>
    notify (noticeTo target owner (.started item.run.id item.run.name))
    return item

/-- Records the **status of a run**; it can be recorded only once. -/
def setStatus (run : Id) (success : Bool) (message : String) : Operation Run := do
  let completion ← store (.finishRun run success)
  let run := completion.run
  match ← tryStore (.getTarget run.task) with
  | .ok target =>
    match target.owner with
    | some owner => notify (noticeTo target owner (.finished run.id run.name success message))
    | none => pure ()
  | .error _ => pure ()
  return run

/-- Whether the task of a run has been **canceled**. -/
def isCanceled (run : Id) : Operation Bool := do
  let run ← store (.getRun run)
  let task ← store (.getTask run.task)
  return task.canceled

/-- A page of the queue, of all repositories or of the one with the given name. There is none if
the store breaks down over it. -/
def listQueue (page : Page) (repository : Option String) :
    Operation (Option (List QueueItem)) := do
  match repository with
  | some name =>
    let repository ← store (.getRepositoryNamed name)
    store (.listQueueOf repository.id page)
  | none => store (.listQueue page)

/-- How many items are on the queue, of all repositories or of the one with the given name. -/
def countQueue (repository : Option String) : Operation Nat := do
  match repository with
  | some name =>
    let repository ← store (.getRepositoryNamed name)
    store (.countQueueOf repository.id)
  | none => store .countQueue

end Dispatch.Worker
