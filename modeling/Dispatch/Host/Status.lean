import Dispatch.Json.Record

/-!
# Commit statuses

The code host shows a status on a commit for each context, here the name of a run.

## Main definitions

* `CommitStatus`: a status.
* `CommitStatus.cap`: the part of a description that a code host keeps.
* `CommitStatus.pending` and its siblings: the statuses in the life of a run.
-/

namespace Dispatch

/-- The state that a commit status shows. -/
inductive StatusState where
  | pending
  | success
  | failure
  | error
deriving DecidableEq, Repr

namespace StatusState

/-- The word for a state. -/
def word : StatusState → String
  | pending => "pending"
  | success => "success"
  | failure => "failure"
  | error => "error"

/-- The state that a word stands for. -/
def ofWord? : String → Option StatusState
  | "pending" => some pending
  | "success" => some success
  | "failure" => some failure
  | "error" => some error
  | _ => none

end StatusState

/-- A **commit status**. -/
structure CommitStatus where
  context : String
  state : StatusState
  targetUrl : String
  description : String
deriving DecidableEq

namespace CommitStatus

/-- The longest description that is posted, in code points. -/
def maxDescription : Nat := 140

/-- The part of a description that is posted: its first `maxDescription` code points. -/
def cap (description : String) : String :=
  String.ofList (description.toList.take maxDescription)

/-- The run has been put on the queue. -/
def pending (context url : String) : CommitStatus :=
  ⟨context, .pending, url, cap "The run will be starting soon."⟩

/-- A worker has claimed the run. -/
def started (context url : String) : CommitStatus :=
  ⟨context, .pending, url, cap "The run has started!"⟩

/-- The run has ended without a result. -/
def errored (context url message : String) : CommitStatus :=
  ⟨context, .error, url, cap ("The run encountered an error: " ++ message)⟩

/-- The run has ended with a result. -/
def finished (context url : String) (success : Bool) (message : String) : CommitStatus :=
  let state : StatusState := if success then .success else .failure
  ⟨context, state, url, cap ("The run finished: " ++ state.word ++ "! " ++ message)⟩

/-- What replaces a status that a newer run has overtaken; the context stays the same, so that
the code host replaces the old status. -/
def cleared (context url : String) : CommitStatus :=
  ⟨context, .error, url, cap ("The run that this test was a part of has been overridden by a " ++
    "new run. Pushing a new change will remove this error.")⟩

/-- The status as a record. -/
def toJson (s : CommitStatus) : Json :=
  .object [("context", .text s.context), ("state", .text s.state.word),
    ("target_url", .text s.targetUrl), ("description", .text s.description)]

/-- Reads a state: its word, or an object that has the word as its only name. -/
def state? : Json → Option StatusState
  | .text word => StatusState.ofWord? word
  | .object [(word, .null)] => StatusState.ofWord? word
  | _ => none

/-- Reads a status. -/
def ofJson? (j : Json) : Option CommitStatus := do
  let m ← j.members? ["context", "state", "target_url", "description"]
  return {
    context := ← m.required "context" Json.string?
    state := ← m.required "state" state?
    targetUrl := ← m.required "target_url" Json.string?
    description := ← m.required "description" Json.string? }

end CommitStatus

end Dispatch
