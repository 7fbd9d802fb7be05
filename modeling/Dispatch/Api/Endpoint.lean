import Dispatch.Api.Body
import Dispatch.Api.Request
import Dispatch.Submission.Intake
import Dispatch.Web.Form

/-!
# Endpoints of the interface

## Main definitions

* `Api.Endpoint`: what can be asked for, with the identifier that the address names.
* `Api.Endpoint.ofRequest`: the endpoint for the method and the path of a request.
* `Api.respond`: the answer to a request.
-/

namespace Dispatch.Api

/-- What can be **asked for**. Identifiers are as they stand in the address. -/
inductive Endpoint where
  | health
  | createSubmission
  | getSubmission (id : String)
  | cancelSubmission (id : String)
  | cancelPullRequest
  | listQueue
  | countQueue
  | nextItem
  | setStatus (run : String)
  | setCancel (run : String)
  | getCancel (run : String)
  | getTask (id : String)
  | cancelTask (id : String)
deriving DecidableEq

namespace Endpoint

/-- The endpoints of a **path**, each with its method. -/
def ofPath : List String → List (String × Endpoint)
  | ["", "health"] => [("GET", health)]
  | ["", "api", "v1", "submissions"] => [("POST", createSubmission)]
  | ["", "api", "v1", "submissions", id] => if id.isEmpty then [] else [("GET", getSubmission id)]
  | ["", "api", "v1", "submissions", id, "cancel"] =>
    if id.isEmpty then [] else [("POST", cancelSubmission id)]
  | ["", "api", "v1", "pull-requests", "cancel"] => [("POST", cancelPullRequest)]
  | ["", "api", "v1", "queue"] => [("GET", listQueue)]
  | ["", "api", "v1", "queue", "count"] => [("GET", countQueue)]
  | ["", "api", "v1", "queue", "next"] => [("POST", nextItem)]
  | ["", "api", "v1", "runs", id, "status"] => if id.isEmpty then [] else [("POST", setStatus id)]
  | ["", "api", "v1", "runs", id, "cancel"] =>
    if id.isEmpty then [] else [("POST", setCancel id), ("GET", getCancel id)]
  | ["", "api", "v1", "tasks", id] => if id.isEmpty then [] else [("GET", getTask id)]
  | ["", "api", "v1", "tasks", id, "cancel"] =>
    if id.isEmpty then [] else [("POST", cancelTask id)]
  | _ => []

/-- The **endpoint** for a method and a path, or the status code of the refusal. A request for
the head of an answer goes where the request for all of it goes. -/
def ofRequest (method : String) (segments : List String) : Except Nat Endpoint :=
  let method := if method = "HEAD" then "GET" else method
  match ofPath segments with
  | [] => .error 404
  | endpoints =>
    match endpoints.find? (·.1 = method) with
    | some (_, endpoint) => .ok endpoint
    | none => .error 405

end Endpoint

/-! ### Reading requests -/

/-- The identifier that an address names. -/
def withId (segment : String) (go : Id → Program Answer) : Program Answer :=
  match Id.parse? (Percent.decodeText segment) with
  | some id => go id
  | none => .done (.bare 400)

/-- The record in the body. -/
def withBody {α : Type} (fields : List Body.Field) (ofJson? : Json → Option α) (r : Request)
    (go : α → Program Answer) : Program Answer :=
  match Body.read fields ofJson? r.contentType r.body with
  | .ok a => go a
  | .error refusal => .done (.bare refusal.statusCode)

/-- The value of a parameter that may be absent, but may not be there twice. -/
def parameter? (name : String) (pairs : List (String × String)) : Option (Option String) :=
  match pairs.filter (·.1 = name) with
  | [] => some none
  | [(_, value)] => some (some value)
  | _ => none

/-- The value of a parameter that is a number. -/
def numberParameter? (name : String) (pairs : List (String × String)) :
    Option (Option Int64) := do
  match ← parameter? name pairs with
  | none => some none
  | some value => (Form.int64? value).map some

/-- The parameters of a request that lists the queue. -/
def listParameters? (query : String) : Option (Option Int64 × Option Int64 × Option String) := do
  let pairs := Form.parse query
  return (← numberParameter? "page" pairs, ← numberParameter? "per_page" pairs,
    ← parameter? "repository" pairs)

/-- The fields of a submission request. -/
def submissionFields : List Body.Field :=
  [.text "parent" false, .text "fork" true, .text "head" true, .text "base" false,
    (Body.Field.number "pull_request_id" false).orNull,
    (Body.Field.text "submitted_by" false).orNull, .flag "all" false, .flag "manual" false]

/-- The fields of the closing of a pull request. -/
def closedPullRequestFields : List Body.Field :=
  [.text "repository" true, .number "pull_request_id" true]

/-- A worker asks for work on a queue. -/
structure NextRequest where
  queue : String
  worker : String

namespace NextRequest

/-- The fields of the request. -/
def fields : List Body.Field := [.text "queue_name" false, .text "running_on" true]

/-- Reads the request. -/
def ofJson? (j : Json) : Option NextRequest := do
  let m ← j.members? ["queue_name", "running_on"]
  return ⟨← m.defaulted "queue_name" "" Json.string?, ← m.required "running_on" Json.string?⟩

end NextRequest

/-- A worker reports the status of a run. -/
structure StatusReport where
  status : Bool
  message : String

namespace StatusReport

/-- The fields of the report. -/
def fields : List Body.Field := [.flag "status" true, .text "message" false]

/-- Reads the report. -/
def ofJson? (j : Json) : Option StatusReport := do
  let m ← j.members? ["status", "message"]
  return ⟨← m.required "status" Json.bool?, ← m.defaulted "message" "" Json.string?⟩

end StatusReport

/-! ### Answering -/

/-- The outcome of an operation as an answer with the given status code. -/
def outcome {α : Type} (status : Nat) (write : α → Json) (op : Operation α) : Program Answer :=
  op.run.bind fun
    | .ok a => .done ⟨status, some (write a)⟩
    | .error e => .done (.ofError e)

/-- An object with one member. -/
def single (name : String) (value : Json) : Json := .object [(name, value)]

/-- What an **endpoint** does. -/
def serve (limit : Nat) (stamp : Timestamp → Json) (r : Request) : Endpoint → Program Answer
  | .health => .done ⟨200, some (single "status" (.text "ok"))⟩
  | .createSubmission =>
    withBody submissionFields SubmissionRequest.ofJson? r fun request =>
      outcome 201 (·.toJson stamp) (Intake.submit limit request)
  | .getSubmission id => withId id fun id =>
    outcome 200 (·.toJson stamp) (Operation.store (.getSubmission id))
  | .cancelSubmission id => withId id fun id =>
    outcome 200 (fun n => single "canceled" (.int n)) (Cancellation.submission id)
  | .cancelPullRequest =>
    withBody closedPullRequestFields Intake.closedPullRequest? r fun closed =>
      outcome 200 (·.toJson stamp) (closed.take limit)
  | .listQueue =>
    match listParameters? r.query with
    | none => .done (.bare 400)
    | some (number, size, repository) =>
      outcome 200 (fun items => .array (items.map (·.toJson stamp))) do
        let page ← Operation.ofDomain (Page.requested number size)
        match ← Worker.listQueue page repository with
        | some items => return items
        | none => Operation.breakOff
  | .countQueue =>
    match parameter? "repository" (Form.parse r.query) with
    | none => .done (.bare 400)
    | some repository =>
      outcome 200 (fun n => single "count" (.int n)) (Worker.countQueue repository)
  | .nextItem =>
    withBody NextRequest.fields NextRequest.ofJson? r fun request =>
      outcome 200 (·.toJson stamp) (Worker.next request.queue request.worker)
  | .setStatus run => withId run fun run =>
    withBody StatusReport.fields StatusReport.ofJson? r fun report =>
      outcome 200 (·.toJson stamp) (Worker.setStatus run report.status report.message)
  | .setCancel run => withId run fun run =>
    outcome 200 (fun _ => single "canceled" (.bool true)) (Cancellation.run run)
  | .getCancel run => withId run fun run =>
    outcome 200 (fun canceled => single "canceled" (.bool canceled)) (Worker.isCanceled run)
  | .getTask id => withId id fun id =>
    outcome 200 (·.toJson stamp) (Operation.store (.getTask id))
  | .cancelTask id => withId id fun id =>
    outcome 200 (fun runs => .array (runs.map (·.toJson stamp))) (Cancellation.task id)

/-- The **answer** to a request. -/
def respond (limit : Nat) (stamp : Timestamp → Json) (r : Request) : Program Answer :=
  match Endpoint.ofRequest r.method r.segments with
  | .error status => .done (.bare status)
  | .ok endpoint => (serve limit stamp r endpoint).bind fun answer =>
    .done (if r.method = "HEAD" then answer.headOnly else answer)

end Dispatch.Api
