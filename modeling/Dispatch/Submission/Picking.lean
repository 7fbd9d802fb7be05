import Dispatch.Dependency.Cycle
import Dispatch.Selection.Directories
import Dispatch.Submission.Resolution

/-!
# Picking tasks

A resolved submission selects task directories. Their declarations are loaded, and those of all
directories that they depend on, before any task is created.

## Main definitions

* `Picking.load`: loads the declarations of directories and of all that they depend on.
* `Picking.pick`: records a submission with its tasks and runs.
* `Picked`: what has been recorded.
-/

namespace Dispatch

/-- What has been **picked**: the records of a submission; its runs are not on the queue yet. -/
structure Picked where
  submission : Submission
  tasks : List Task
  /-- In the order in which they were created. -/
  runs : List Run

/-- The runs as new queue items. -/
def Picked.batch (p : Picked) : List NewQueueItem :=
  p.runs.map fun r => .on r.id r.settings.queue

namespace Picking

open Operation

/-! ### Selecting -/

/-- The **selected** task directories. -/
def selection (r : Resolved) (files : List String) (tasks : Directories) :
    Operation Directories := do
  if r.isFullRun then return tasks
  let changed ←
    if r.base.sha = r.head.sha then pure files
    else stage "computing diff" (host r.token (.getDiff r.parent.name r.base.sha r.head.sha))
  return Selection.select tasks (← ofConfig (Selection.changedDirectories changed))

/-! ### Loading -/

/-- Why the declaration of a directory cannot be loaded. -/
def loadError (dir : String) (e : HostError) : ConfigError :=
  if e.isNotFound then
    .invalidReference ("no " ++ TaskDeclaration.fileName ++ " in " ++ Text.quoted dir)
  else .invalidValue (Selection.declarationPath dir) e.message

/-- Loads the declaration of **one directory**. -/
def loadOne (r : Resolved) (dir : String) : Program (Except ConfigError TaskSettings) :=
  .host r.token (.getFile r.fork.name r.head.sha (Selection.declarationPath dir)) fun
    | .ok bytes => .done (TaskDeclaration.parse r.config (Text.ofBytes bytes))
    | .error e => .done (.error (loadError dir e))

/-- Adds the dependencies of a directory that have not been seen to those that wait. -/
def await (waiting : List String) (seen : Directories) :
    List String → List String × Directories
  | [] => (waiting, seen)
  | dep :: deps =>
    if seen.contains dep then await waiting seen deps
    else await (waiting ++ [dep]) (seen.add dep) deps

/-- Declarations by directory, or what is wrong with the one of some directory. -/
abbrev Loaded := Except (String × ConfigError) (Dictionary TaskSettings)

/-- Loads the declarations of the **waiting** directories and of what they depend on, in this
order, but of no more than `limit` directories. -/
def loadWaiting (r : Resolved) :
    (limit : Nat) → (waiting : List String) → (seen : Directories) →
      (loaded : Dictionary TaskSettings) → Program Loaded
  | _, [], _, loaded => .done (.ok loaded)
  | 0, _ :: _, _, _ => .overrun
  | limit + 1, dir :: waiting, seen, loaded => (loadOne r dir).bind fun
    | .error e => .done (.error (dir, e))
    | .ok settings =>
      let (waiting, seen) := await waiting seen settings.dependencies
      loadWaiting r limit waiting seen (loaded.insert dir settings)

/-- The dependencies among loaded directories. -/
def dependencies (loaded : Dictionary TaskSettings) : DependencyGraph :=
  loaded.map fun _ settings => settings.dependencies

/-- Refuses declarations whose dependencies form a cycle. The directory that is named as being at
fault is what comes before the first arrow in the wording of the edge. -/
def checkCycle (loaded : Dictionary TaskSettings) : Loaded :=
  match (dependencies loaded).closingEdge? with
  | some edge =>
    .error (String.ofList (Text.before DependencyGraph.arrow.toList edge.text.toList),
      .cycle edge.text)
  | none => .ok loaded

/-- **Loads** the declarations of the selected directories and of all that they depend on. -/
def load (limit : Nat) (r : Resolved) (selected : Directories) : Program Loaded :=
  (loadWaiting r limit selected.keys selected .empty).bind fun
    | .ok loaded => .done (checkCycle loaded)
    | .error e => .done (.error e)

/-- The comment on a pull request about a declaration that cannot be processed. -/
def complaint (dir : String) (e : ConfigError) : String :=
  "ferry could not process the task in `" ++ dir ++ "`:\n\n```\n" ++ e.message ++ "\n```"

/-- Comments on the pull request, if there is one. -/
def complain (r : Resolved) (dir : String) (e : ConfigError) : Operation Unit := do
  match r.ticket with
  | some number =>
    let _ ← tryHost r.token (.comment r.parent.name number (complaint dir e))
    return ()
  | none => return ()

/-! ### Recording -/

/-- The notification that a run is going to start. -/
def pendingNotice (r : Resolved) (run : Run) : Notification where
  token := r.token
  repository := r.parent.name
  sha := r.head.sha
  report := .pending run.id run.name

/-- Creates a **run** of a task. -/
def createRun (r : Resolved) (task : Task) (dir : String) (settings : RunSettings) :
    Operation Run := do
  let new : NewRun := ⟨task.id, Run.displayName dir settings.name, settings⟩
  let run ← stage ("creating run " ++ new.name) do
    ofDomain new.validate
    store (.createRun new)
  notify (pendingNotice r run)
  return run

/-- Creates the **task** of a directory with its runs. -/
def createTask (r : Resolved) (submission : Submission) (dir : String)
    (settings : TaskSettings) : Operation (Task × List Run) := do
  let task ← stage ("creating task " ++ dir) (store (.createTask {
    submission := submission.id
    repository := r.parent.id
    path := dir
    settings
    pullRequest := r.ticket }))
  let runs ← settings.runs.values.mapM (createRun r task dir)
  return (task, runs)

/-- What is recorded about a submission. -/
def record (r : Resolved) : NewSubmission where
  base := r.base.id
  head := if r.head.id = r.base.id then none else some r.head.id
  submittedBy := r.submitter.map (·.id)
  ticket := r.ticket

/-- **Picks** the tasks of a resolved submission. -/
def pick (limit : Nat) (r : Resolved) : Operation Picked := do
  let files ← stage "listing files" (host r.token (.listFiles r.fork.name r.head.sha))
  let tasks ← ofConfig (Selection.taskDirectories r.config files)
  let selected ← selection r files tasks
  let submission ← stage "recording submission" (store (.createSubmission (record r)))
  match ← ExceptT.lift (load limit r selected) with
  | .error (dir, e) =>
    complain r dir e
    stage ("parsing task " ++ dir) (fail e)
  | .ok loaded =>
    let created ← loaded.entries.mapM fun (dir, settings) => createTask r submission dir settings
    return ⟨submission, created.map (·.1), (created.map (·.2)).flatten⟩

end Picking

end Dispatch
