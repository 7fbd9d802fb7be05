import Dispatch.Config.Directory
import Dispatch.Config.Repository

/-!
# Task declarations

A directory that has a task holds a file that declares it. What the declaration leaves open is
filled in from the configuration of the repository, so that the settings that come out are
exactly those that are stored and carried out.

## Main definitions

* `TaskDeclaration.parse`: reads a declaration.
* `TaskSettings.complete`: the settings with the gaps filled.

## Precedence

What counts first comes first:

* image: run, task, repository;
* timeout: repository if it overrides; else run, task, repository;
* queue: repository if it overrides; else run, task, repository, the default queue;
* metadata: run, then repository, or the other way round if the repository overrides;
* working directory: task, repository, mount point;
* resources: run, task, repository.
-/

namespace Dispatch

/-! ### Filling the gaps -/

/-- The first text that is not empty, or the last one. -/
def firstGiven : List String → String → String
  | [], last => last
  | s :: rest, last => if s.isEmpty then firstGiven rest last else s

/-- The resources, or others if none are asked for. -/
def Resources.orElse (r other : Resources) : Resources := if r.isUnset then other else r

namespace RunSettings

/-- The timeout of a run in a task with the given default. -/
def effectiveTimeout (r : RunSettings) (taskDefault : UInt64) (c : RepoConfig) : UInt64 :=
  if c.overrideTimeout && c.globalTimeout != 0 then c.globalTimeout
  else if r.timeout != 0 then r.timeout
  else if taskDefault != 0 then taskDefault
  else c.globalTimeout

/-- The queue of a run in a task with the given default. -/
def effectiveQueue (r : RunSettings) (taskDefault : String) (c : RepoConfig) : String :=
  if c.overrideQueue then c.queue
  else firstGiven [r.queue, taskDefault, c.queue] Queue.defaultName

/-- The metadata of a run with that of the repository. -/
def effectiveMetadata (r : RunSettings) (c : RepoConfig) : Dictionary String :=
  c.metadata.entries.foldl
    (fun d (key, value) =>
      if c.overrideMetadata || !d.contains key then d.insert key value else d)
    r.metadata

/-- The settings of a run with the gaps filled from its task, whose own gaps have been filled,
and from the repository. -/
def complete (r : RunSettings) (task : TaskSettings) (c : RepoConfig) : RunSettings :=
  { r with
    image := firstGiven [r.image] task.defaultImage
    metadata := r.effectiveMetadata c
    timeout := r.effectiveTimeout task.defaultTimeout c
    queue := r.effectiveQueue task.defaultQueue c
    resources := r.resources.orElse task.defaultResources }

end RunSettings

namespace TaskSettings

/-- The settings of a task with the gaps in its own fields filled from the repository. -/
def completeDefaults (s : TaskSettings) (c : RepoConfig) : TaskSettings :=
  let workdir := firstGiven [s.workdir] c.workdir
  { s with
    defaultImage := firstGiven [s.defaultImage] c.defaultImage
    defaultResources := s.defaultResources.orElse c.defaultResources
    workdir := if s.runs.isEmpty then workdir else firstGiven [workdir] s.mountpoint }

/-- The **settings with the gaps filled**. -/
def complete (s : TaskSettings) (c : RepoConfig) : TaskSettings :=
  let s := s.completeDefaults c
  { s with runs := s.runs.map fun _ r => r.complete s c }

end TaskSettings

/-! ### Reading -/

namespace RunDeclaration

/-- The name of a declared run, which may not be empty. -/
def name (n : Kdl.Node) : Except ConfigError String :=
  match Field.text n with
  | .ok name => if name.isEmpty then .error (.missingField "run name") else .ok name
  | .error _ => .error (.missingField "run name")

/-- Takes a field of a run into account. -/
def assign (r : RunSettings) (n : Kdl.Node) : Except ConfigError RunSettings := do
  match n.name with
  | "command" => return { r with command := ← Field.texts n }
  | "image" => return { r with image := ← Field.text n }
  | "queue" => return { r with queue := ← Field.text n }
  | "timeout" => return { r with timeout := ← Field.number n }
  | "resources" => return { r with resources := ← Field.resources n }
  | "metadata" => return { r with metadata := ← Field.textMap n }
  | "privileged" => return { r with privileged := ← Field.flag n }
  | other => .error (.unknownField ("run " ++ Text.quoted r.name ++ ": " ++ other))

/-- The settings that the declaration of a run gives. -/
def read (n : Kdl.Node) : Except ConfigError RunSettings := do
  n.children.foldlM assign (.named (← name n))

end RunDeclaration

namespace TaskDeclaration

/-- The name of the file in the directory of a task. -/
def fileName : String := "task.kdl"

/-- Takes a field of a declaration into account. -/
def assign (s : TaskSettings) (n : Kdl.Node) : Except ConfigError TaskSettings := do
  match n.name with
  | "mountpoint" => return { s with mountpoint := ← Field.text n }
  | "workdir" => return { s with workdir := ← Field.text n }
  | "env" => return { s with env := s.env ++ (← Field.texts n) }
  | "dependencies" =>
    return { s with
      dependencies := s.dependencies ++ (← (← Field.texts n).mapM Directory.normalize) }
  | "default-timeout" => return { s with defaultTimeout := ← Field.number n }
  | "default-queue" => return { s with defaultQueue := ← Field.text n }
  | "default-image" => return { s with defaultImage := ← Field.text n }
  | "default-resources" => return { s with defaultResources := ← Field.resources n }
  | "metadata" => return { s with metadata := ← Field.textMap n }
  | "run" =>
    let r ← RunDeclaration.read n
    if s.runs.contains r.name then .error (.duplicate ("run " ++ Text.quoted r.name))
    else return { s with runs := s.runs.insert r.name r }
  | other => .error (.unknownField other)

/-- Privileges are granted by the repository, not by the declaration. -/
def checkPrivileges (c : RepoConfig) (runs : List RunSettings) : Except ConfigError Unit :=
  match runs.find? fun r => r.privileged && !c.allowPrivileged with
  | some r => .error (.privilegedDenied r.name)
  | none => .ok ()

/-- The settings that a document describes within a repository. -/
def ofDocument (c : RepoConfig) (nodes : List Kdl.Node) : Except ConfigError TaskSettings := do
  let declared ← nodes.foldlM assign .empty
  let s := declared.complete c
  checkPrivileges c s.runs.values
  s.validate.mapError .invalid
  return s

/-- Reads a **task declaration** within a repository. -/
def parse (c : RepoConfig) (text : String) : Except ConfigError TaskSettings :=
  match Kdl.parse? text with
  | some nodes => ofDocument c nodes
  | none => .error .unreadable

end TaskDeclaration

end Dispatch
