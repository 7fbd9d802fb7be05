import Dispatch.Submission.Picking

/-!
# Taking in work

A submission is resolved, its tasks are picked and its runs put on the queue. If they cannot be
put there, they fail, so that none waits for a place on the queue that it never gets.

## Main definitions

* `Intake.submit`: takes a submission in.
* `Intake`: what can be taken in besides submissions.
* `Intake.take`: takes in whatever it is.
-/

namespace Dispatch

/-- A **submission that was taken in** and everything it put on the queue. -/
structure Submitted where
  submission : Submission
  items : List QueueItem

/-- What can be **taken in**. -/
inductive Intake where
  | submission (request : SubmissionRequest)
  /-- A pull request has been closed or overtaken, and its work is canceled. -/
  | closedPullRequest (repository : String) (number : Int64)

/-- What became of what was taken in. -/
inductive IntakeOutcome where
  | submitted (result : Submitted)
  | canceled (tasks : Nat)

namespace Intake

open Operation

/-- Fails the runs that could not be put on the queue, as far as that is possible. -/
def failRuns (message : String) : List Run → Operation Unit
  | [] => return ()
  | r :: rest => do
    let _ ← attempt (Worker.setStatus r.id false message)
    failRuns message rest

/-- Picks the tasks of a resolved submission and puts their runs on the queue. -/
def start (limit : Nat) (r : Resolved) : Operation Submitted := do
  let picked ← stage "picking tasks" (Picking.pick limit r)
  match ← tryStore (.enqueue picked.batch) with
  | .error e =>
    failRuns ("Canceled due to error: " ++ e.message) picked.runs
    stage "enqueueing runs" (fail e)
  | .ok items =>
    let submission ← stage "reloading submission" (store (.getSubmission picked.submission.id))
    return ⟨submission, items⟩

/-- The notification that a submission could not be started. -/
def notStarted (r : Resolved) (e : OperationError) : Notification where
  token := r.token
  repository := r.parent.name
  sha := r.head.sha
  report := .notStarted e.message

/-- Takes a **submission** in. Once the repositories are known, a failure is reported on the
head commit as well. -/
def submit (limit : Nat) (request : SubmissionRequest) : Operation Submitted := do
  let resolved ← stage "processing submission" (Resolution.resolve request)
  match ← attempt (start limit resolved) with
  | .ok submitted => return submitted
  | .error e =>
    notify (notStarted resolved e)
    fail e

/-- Takes in **whatever** it is. -/
def take (limit : Nat) : Intake → Operation IntakeOutcome
  | submission request => return .submitted (← submit limit request)
  | closedPullRequest repository number =>
    return .canceled (← Cancellation.pullRequest repository number)

/-! ### Records -/

/-- Reads the closing of a pull request. -/
def closedPullRequest? (j : Json) : Option Intake := do
  let m ← j.members? ["repository", "pull_request_id"]
  return .closedPullRequest (← m.required "repository" Json.string?)
    (← m.required "pull_request_id" Json.int64?)

/-- Reads what is to be taken in, given the word for what it is. -/
def ofWord? (word : String) (j : Json) : Option Intake :=
  match word with
  | "submit" => (SubmissionRequest.ofJson? j).map submission
  | "cancel_pull_request" => closedPullRequest? j
  | _ => none

/-- Reads what is to be taken in. The member `type`, or the first item of an array, says what it
is. -/
def ofJson? : Json → Option Intake
  | .object members => do
    let word ← Json.lastNamed "type" members
    ofWord? (← word.string?) (.object (members.filter (·.1 ≠ "type")))
  | .array (.text word :: rest) => ofWord? word (.array rest)
  | _ => none

end Intake

/-- A submission that was taken in, as a record. -/
def Submitted.toJson (stamp : Timestamp → Json) (s : Submitted) : Json :=
  .object [("submission", s.submission.toJson stamp),
    ("queue_items", .array (s.items.map (·.toJson stamp)))]

/-- What became of what was taken in, as a record. -/
def IntakeOutcome.toJson (stamp : Timestamp → Json) : IntakeOutcome → Json
  | submitted result =>
    .object [("type", .text "submitted"), ("submission", result.submission.toJson stamp),
      ("queue_items", .array (result.items.map (·.toJson stamp)))]
  | canceled tasks => .object [("type", .text "canceled"), ("tasks", .int tasks)]

end Dispatch
