import Dispatch.Task.Run

/-!
# Tasks

A task is the work of one directory for one submission.

## Main definitions

* `Task`: the stored record.
* `Task.isFinished`: a task that never changes again.
-/

namespace Dispatch

/-- A **task**. -/
structure Task where
  id : Id
  submission : Id
  /-- The repository that the submission was made against. -/
  repository : Id
  path : String
  settings : TaskSettings
  pullRequest : Option Int64
  canceled : Bool
  status : Option Bool
  createdAt : Timestamp
  startedAt : Option Timestamp
  finishedAt : Option Timestamp
deriving DecidableEq

/-- What is needed to create a task. -/
structure NewTask where
  submission : Id
  repository : Id
  path : String
  settings : TaskSettings
  pullRequest : Option Int64

namespace Task

/-- A **finished** task keeps its status and its canceled mark for good. -/
def isFinished (t : Task) : Bool := t.finishedAt.isSome

/-- The fields of the record except for the settings. -/
def summary (stamp : Timestamp → Json) (t : Task) : List (String × Json) :=
  [("id", t.id.toJson), ("submission_id", t.submission.toJson),
    ("repository_id", t.repository.toJson), ("path", .text t.path),
    ("pull_request_id", .ofOption (fun n => .int n.toInt) t.pullRequest),
    ("canceled", .bool t.canceled), ("status", .ofOption .bool t.status),
    ("created_at", stamp t.createdAt), ("started_at", .ofOption stamp t.startedAt),
    ("finished_at", .ofOption stamp t.finishedAt)]

/-- The task as a record. -/
def toJson (stamp : Timestamp → Json) (t : Task) : Json :=
  .object (("settings", t.settings.toJson) :: t.summary stamp)

end Task

end Dispatch
