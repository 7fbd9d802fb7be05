import Dispatch.Repository.Basic
import Dispatch.Task.Settings

/-!
# Runs

A run is one command of a task, executed by a worker.

## Main definitions

* `Run`: the stored record.
* `Run.displayName`: the name under which a run is known on the code host.
-/

namespace Dispatch

/-- A **run**. Its status and the time at which it finished are set together and only once. -/
structure Run where
  id : Id
  task : Id
  name : String
  settings : RunSettings
  createdAt : Timestamp
  startedAt : Option Timestamp
  finishedAt : Option Timestamp
  status : Option Bool
deriving DecidableEq

/-- What is needed to create a run. -/
structure NewRun where
  task : Id
  name : String
  settings : RunSettings

/-- A run needs a name and valid settings. -/
def NewRun.validate (r : NewRun) : Except DomainError Unit :=
  if r.name.isEmpty then .error (.invalidInput "run name was empty") else r.settings.validate

namespace Run

/-- What stands for the root directory in the name of a run. -/
def rootLabel : String := "*root*"

/-- The **display name** of a run: its directory, a colon and its own name. -/
def displayName (dir name : String) : String :=
  (if dir.isEmpty || dir = "." then rootLabel else dir) ++ ":" ++ name

/-- The fields of the record except for the settings. -/
def summary (stamp : Timestamp → Json) (r : Run) : List (String × Json) :=
  [("id", r.id.toJson), ("task_id", r.task.toJson), ("name", .text r.name),
    ("created_at", stamp r.createdAt), ("started_at", .ofOption stamp r.startedAt),
    ("finished_at", .ofOption stamp r.finishedAt), ("status", .ofOption .bool r.status)]

/-- The run as a record. -/
def toJson (stamp : Timestamp → Json) (r : Run) : Json :=
  .object (("settings", r.settings.toJson) :: r.summary stamp)

/-- The names of the fields in their order. -/
def fieldNames : List String :=
  ["id", "task_id", "name", "settings", "created_at", "started_at", "finished_at", "status"]

/-- Reads a run. -/
def ofJson? (j : Json) : Option Run := do
  let m ← j.members? fieldNames
  return {
    id := ← m.required "id" Id.ofJson?
    task := ← m.required "task_id" Id.ofJson?
    name := ← m.required "name" Json.string?
    settings := ← m.required "settings" RunSettings.ofJson?
    createdAt := ← m.required "created_at" Timestamp.ofJson?
    startedAt := ← m.optional "started_at" Timestamp.ofJson?
    finishedAt := ← m.optional "finished_at" Timestamp.ofJson?
    status := ← m.optional "status" Json.bool? }

end Run

/-- What recording the status of a run did: the run, and the status of its task if this was the
last run without one. -/
structure RunCompletion where
  run : Run
  taskStatus : Option Bool

end Dispatch
