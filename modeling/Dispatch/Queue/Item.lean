import Dispatch.Task.Run

/-!
# Queue items

A queue item is a run that waits for a worker or that a worker has claimed.

## Main definitions

* `QueueItem`: an item as it is shown, with its run.
* `Queue.nameOrDefault`: the queue that an empty name stands for.
-/

namespace Dispatch

namespace Queue

/-- The queue that is used where none is named. -/
def defaultName : String := "default"

/-- The name, or that of the default queue in place of an empty one. -/
def nameOrDefault (name : String) : String := if name.isEmpty then defaultName else name

end Queue

/-- A **queue item** as it is shown. -/
structure QueueItem where
  id : Id
  run : Run
  running : Bool
  /-- The worker that claimed the item. -/
  runningOn : Option String
  startedAt : Option Timestamp
  queue : String
deriving DecidableEq

/-- What is needed to put a run on a queue. -/
structure NewQueueItem where
  run : Id
  queue : String

/-- The run on the queue of the given name, or on the default queue. -/
def NewQueueItem.on (run : Id) (queue : String) : NewQueueItem := ⟨run, Queue.nameOrDefault queue⟩

namespace QueueItem

/-- The queue has a name. -/
def validateQueue (queue : String) : Except DomainError Unit :=
  if queue.isEmpty then .error (.invalidInput "queue name was empty") else .ok ()

/-- The item is on a queue with a name. -/
def validate (i : QueueItem) : Except DomainError Unit := validateQueue i.queue

/-- The item has been claimed by a worker with a name. -/
def validateRunning (i : QueueItem) : Except DomainError Unit :=
  if (i.runningOn.getD "").isEmpty then .error (.invalidInput "missing run target hostname")
  else if i.running then .ok ()
  else .error (.invalidInput "was not flagged running, yet should be")

/-- The fields of the record except for the run. -/
def summary (stamp : Timestamp → Json) (i : QueueItem) : List (String × Json) :=
  [("id", i.id.toJson), ("running", .bool i.running), ("running_on", .ofOption .text i.runningOn),
    ("started_at", .ofOption stamp i.startedAt), ("queue_name", .text i.queue)]

/-- The item as a record. -/
def toJson (stamp : Timestamp → Json) (i : QueueItem) : Json :=
  .object (("run", i.run.toJson stamp) :: i.summary stamp)

/-- The names of the fields in their order. -/
def fieldNames : List String := ["id", "run", "running", "running_on", "started_at", "queue_name"]

/-- Reads an item. -/
def ofJson? (j : Json) : Option QueueItem := do
  let m ← j.members? fieldNames
  return {
    id := ← m.required "id" Id.ofJson?
    run := ← m.required "run" Run.ofJson?
    running := ← m.required "running" Json.bool?
    runningOn := ← m.optional "running_on" Json.string?
    startedAt := ← m.optional "started_at" Timestamp.ofJson?
    queue := ← m.required "queue_name" Json.string? }

end QueueItem

end Dispatch
