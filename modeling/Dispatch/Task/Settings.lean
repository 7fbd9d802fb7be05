import Dispatch.Error
import Dispatch.Json.Record
import Dispatch.Text.Quoted

/-!
# Task settings

What a task declaration configures, after defaults have been filled in.

## Main definitions

* `Resources`: what a worker should make available to a run.
* `RunSettings`, `TaskSettings`: the settings of a run and of a task.
* `RunSettings.validate`, `TaskSettings.validate`: the checks made before either is stored.
-/

namespace Dispatch

/-- **Resources** for a run, in units of the worker's choosing; zero asks for nothing. -/
structure Resources where
  cpu : UInt32
  memory : UInt32
  disk : UInt32
  iops : UInt32
deriving DecidableEq

namespace Resources

/-- No resource is asked for. -/
def none : Resources := ⟨0, 0, 0, 0⟩

instance : Inhabited Resources := ⟨none⟩

/-- Whether no resource is asked for. -/
def isUnset (r : Resources) : Bool := r = none

/-- The resources as a record. -/
def toJson (r : Resources) : Json :=
  .object [("cpu", .int r.cpu.toNat), ("memory", .int r.memory.toNat),
    ("disk", .int r.disk.toNat), ("iops", .int r.iops.toNat)]

/-- Reads resources. -/
def ofJson? (j : Json) : Option Resources := do
  let m ← j.members? ["cpu", "memory", "disk", "iops"]
  return {
    cpu := ← m.required "cpu" Json.uint32?
    memory := ← m.required "memory" Json.uint32?
    disk := ← m.required "disk" Json.uint32?
    iops := ← m.required "iops" Json.uint32? }

end Resources

/-- The **settings of a run**, the unit that a worker executes. -/
structure RunSettings where
  name : String
  command : List String
  image : String
  queue : String
  /-- In seconds; zero means no limit. -/
  timeout : UInt64
  resources : Resources
  metadata : Dictionary String
  privileged : Bool
deriving DecidableEq

namespace RunSettings

/-- The settings of a run of which only the name is known. -/
def named (name : String) : RunSettings where
  name := name
  command := []
  image := ""
  queue := ""
  timeout := 0
  resources := .none
  metadata := .empty
  privileged := false

/-- A run needs a command, an image and a queue. -/
def validate (r : RunSettings) : Except DomainError Unit :=
  let missing (what : String) : Except DomainError Unit :=
    .error (.invalidInput ("run " ++ Text.quoted r.name ++ ": " ++ what ++ " was empty"))
  if r.command.isEmpty then missing "command"
  else if r.image.isEmpty then missing "image"
  else if r.queue.isEmpty then missing "queue name"
  else .ok ()

/-- The settings as a record. -/
def toJson (r : RunSettings) : Json :=
  .object [("name", .text r.name), ("command", .array (r.command.map .text)),
    ("image", .text r.image), ("queue", .text r.queue), ("timeout_secs", .int r.timeout.toNat),
    ("resources", r.resources.toJson), ("metadata", .ofDictionary .text r.metadata),
    ("privileged", .bool r.privileged)]

/-- The names of the fields in their order. -/
def fieldNames : List String :=
  ["name", "command", "image", "queue", "timeout_secs", "resources", "metadata", "privileged"]

/-- Reads the settings of a run. -/
def ofJson? (j : Json) : Option RunSettings := do
  let m ← j.members? fieldNames
  return {
    name := ← m.required "name" Json.string?
    command := ← m.required "command" (Json.list? Json.string?)
    image := ← m.required "image" Json.string?
    queue := ← m.required "queue" Json.string?
    timeout := ← m.required "timeout_secs" Json.uint64?
    resources := ← m.required "resources" Resources.ofJson?
    metadata := ← m.required "metadata" (Json.dictionary? Json.string?)
    privileged := ← m.required "privileged" Json.bool? }

end RunSettings

/-- The **settings of a task**: its runs by name and the defaults that they share. -/
structure TaskSettings where
  mountpoint : String
  workdir : String
  env : List String
  /-- Directories whose tasks must run as well. -/
  dependencies : List String
  runs : Dictionary RunSettings
  defaultTimeout : UInt64
  defaultQueue : String
  defaultImage : String
  defaultResources : Resources
  metadata : Dictionary String
deriving DecidableEq

namespace TaskSettings

/-- The settings of an empty declaration. -/
def empty : TaskSettings where
  mountpoint := ""
  workdir := ""
  env := []
  dependencies := []
  runs := .empty
  defaultTimeout := 0
  defaultQueue := ""
  defaultImage := ""
  defaultResources := .none
  metadata := .empty

/-- The runs are checked one after the other. -/
def validateRuns : List RunSettings → Except DomainError Unit
  | [] => .ok ()
  | r :: rest => do
    r.validate
    validateRuns rest

/-- A task needs runs or dependencies; with runs it needs a mount point, and each run must be
valid. -/
def validate (s : TaskSettings) : Except DomainError Unit :=
  if s.runs.isEmpty then
    if s.dependencies.isEmpty then
      .error (.invalidInput "no runs in task and no dependencies")
    else .ok ()
  else if s.mountpoint.isEmpty then .error (.invalidInput "no mountpoint")
  else validateRuns s.runs.values

/-- The settings as a record. -/
def toJson (s : TaskSettings) : Json :=
  .object [("mountpoint", .text s.mountpoint), ("workdir", .text s.workdir),
    ("env", .array (s.env.map .text)), ("dependencies", .array (s.dependencies.map .text)),
    ("runs", .ofDictionary RunSettings.toJson s.runs),
    ("default_timeout_secs", .int s.defaultTimeout.toNat),
    ("default_queue", .text s.defaultQueue), ("default_image", .text s.defaultImage),
    ("default_resources", s.defaultResources.toJson),
    ("metadata", .ofDictionary .text s.metadata)]

/-- The names of the fields in their order. -/
def fieldNames : List String :=
  ["mountpoint", "workdir", "env", "dependencies", "runs", "default_timeout_secs",
    "default_queue", "default_image", "default_resources", "metadata"]

/-- Reads the settings of a task. -/
def ofJson? (j : Json) : Option TaskSettings := do
  let m ← j.members? fieldNames
  return {
    mountpoint := ← m.required "mountpoint" Json.string?
    workdir := ← m.required "workdir" Json.string?
    env := ← m.required "env" (Json.list? Json.string?)
    dependencies := ← m.required "dependencies" (Json.list? Json.string?)
    runs := ← m.required "runs" (Json.dictionary? RunSettings.ofJson?)
    defaultTimeout := ← m.required "default_timeout_secs" Json.uint64?
    defaultQueue := ← m.required "default_queue" Json.string?
    defaultImage := ← m.required "default_image" Json.string?
    defaultResources := ← m.required "default_resources" Resources.ofJson?
    metadata := ← m.required "metadata" (Json.dictionary? Json.string?) }

end TaskSettings

end Dispatch
