import Dispatch.Console.Value

/-!
# Commands of the client

Users of the dispatcher check declarations and turn to a server from the command line.

## Main definitions

* `Client.Command`: what the client can be told to do.
* `Client.Invocation.read`: what a command line tells it.
-/

namespace Dispatch.Client

/-- A **submission by hand**. -/
structure Submission where
  fork : String
  head : String
  base : Option String
  /-- Every task is run, not only those that the changes concern. -/
  all : Bool
  user : String
deriving DecidableEq

/-- What the client can be **told to do**. -/
inductive Command where
  | validate (path : String) (repositoryConfig : Option String)
  | submit (submission : Submission)
  | cancel (run : String)
  | listQueue (repository : Option String) (page perPage : Int64)
  | countQueue (repository : Option String)
deriving DecidableEq

/-- A command, and the address of the server. -/
structure Invocation where
  api : Url
  command : Command

namespace Invocation

open Console (Parameter Level Ending url? int64?)

/-- Only the items of one repository. -/
def repositoryOption : Parameter :=
  .option "repository" "Only items for this repository (owner/repo)"

/-- The commands about the queue. -/
def queueCommand : Console.Command where
  name := "queue"
  about := "Inspect the queue"
  parameters := []
  subcommands := [
    { name := "list"
      about := "List queued and running items"
      parameters := [repositoryOption,
        (Parameter.option "page" "").orElse "0" |>.reads int64?,
        (Parameter.option "per-page" "").orElse "10" |>.reads int64?]
      subcommands := [] },
    { name := "count"
      about := "Count queued and running items"
      parameters := [repositoryOption]
      subcommands := [] }]

/-- The **command line** of the client. -/
def grammar : Console.Command where
  name := "ferry"
  about := "ferry CI CLI"
  parameters := [
    (Parameter.option "api-url" "API server URL").orVariable "FERRY_API_URL"
      |>.orElse "http://localhost:3000" |>.reads url?]
  subcommands := [
    { name := "validate"
      about := "Validate a task declaration"
      parameters := [
        (Parameter.argument "path" "Path to the task file").orElse "task.kdl",
        .option "repo-config" "Repository configuration to apply"]
      subcommands := [] },
    { name := "submit"
      about := "Submit a manual run"
      parameters := [
        (Parameter.option "fork" "Repository to test (owner/repo)").needed,
        (Parameter.option "head" "Head SHA or branch").needed,
        .option "base" "Base SHA or branch; defaults to the main branch",
        .switch "all" "Run every task, not only those touched by the diff",
        (Parameter.option "user" "Submitting user").orVariable "FERRY_USER" |>.needed]
      subcommands := [] },
    { name := "cancel"
      about := "Cancel the task a run belongs to"
      parameters := [(Parameter.argument "run-id" "Run ID").needed]
      subcommands := [] },
    queueCommand]

/-- The variables of the environment that the command line depends on. -/
def variableNames : List String := ["FERRY_API_URL", "FERRY_USER"]

/-- The command that the levels below the first one stand for. -/
def command? : List Level → Option Command
  | [⟨"validate", values⟩] => do
    let l : Level := ⟨"validate", values⟩
    return .validate (← l.value? "path") (l.value? "repo-config")
  | [⟨"submit", values⟩] => do
    let l : Level := ⟨"submit", values⟩
    return .submit ⟨← l.value? "fork", ← l.value? "head", l.value? "base", l.isOn "all",
      ← l.value? "user"⟩
  | [⟨"cancel", values⟩] => do
    let l : Level := ⟨"cancel", values⟩
    return .cancel (← l.value? "run-id")
  | [⟨"queue", _⟩, ⟨"list", values⟩] => do
    let l : Level := ⟨"list", values⟩
    return .listQueue (l.value? "repository") (← l.get? "page" int64?)
      (← l.get? "per-page" int64?)
  | [⟨"queue", _⟩, ⟨"count", values⟩] =>
    let l : Level := ⟨"count", values⟩
    some (.countQueue (l.value? "repository"))
  | _ => none

/-- What the levels of a command line stand for. -/
def ofLevels? : List Level → Option Invocation
  | top :: rest => do return ⟨← top.get? "api-url" url?, ← command? rest⟩
  | [] => none

/-- What the **words of a command line** tell the client. -/
def read (environment : String → Option String) (words : List String) :
    Except Ending Invocation := do
  match ofLevels? (← Console.read environment grammar words) with
  | some invocation => return invocation
  | none => throw .misuse

end Invocation

end Dispatch.Client
