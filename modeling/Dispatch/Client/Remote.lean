import Dispatch.Client.Command
import Dispatch.Client.Work
import Dispatch.Json.Printer
import Dispatch.Json.Record
import Dispatch.Web.Form
import Dispatch.Web.StatusCode

/-!
# Turning to a server

## Main definitions

* `Client.submit`, `Client.cancel`, `Client.listQueue`, `Client.countQueue`: what the client asks
  of a server.
-/

namespace Dispatch.Client

/-- The address of a resource of the server. -/
def address (api : Url) (path : String) : Work Url :=
  match api.join path with
  | .ok url => return url
  | .error e => throw ⟨"invalid API path " ++ path, [e.message]⟩

/-- What a server **replies** on success; otherwise the error that it reports is a failure. -/
def accept (r : Http.Response) : Work Json :=
  if r.isSuccess then
    match r.json? with
    | some j => return j
    | none => throw ⟨"error decoding response body", []⟩
  else
    let status := StatusCode.text r.status.toNat
    match (r.json?.getD .null).field "error" with
    | .text message => throw ⟨status ++ ": " ++ message, []⟩
    | _ => throw ⟨status, []⟩

/-- Asks for a resource. -/
def get (api : Url) (path : String) (query : List (String × String)) : Work Json := do
  let url ← address api path
  let url := if query.isEmpty then url else url.addQuery (Form.write query)
  accept (← Work.send (.get url [("accept", "*/*")]))

/-- Sends a record to a resource. -/
def post (api : Url) (path : String) (body : Json) : Work Json := do
  let url ← address api path
  accept (← Work.send (.post url [("accept", "*/*")] body))

/-- A submission by hand, as a record. A missing base is an empty one. -/
def Submission.toJson (s : Submission) : Json :=
  .object [("fork", .text s.fork), ("head", .text s.head), ("base", .text (s.base.getD "")),
    ("submitted_by", .text s.user), ("all", .bool s.all), ("manual", .bool true)]

/-- Makes a **submission**. -/
def submit (api : Url) (s : Submission) : Work Json := post api "api/v1/submissions" s.toJson

/-- **Cancels** the task of a run. -/
def cancel (api : Url) (run : String) : Work Json :=
  post api ("api/v1/runs/" ++ run ++ "/cancel") .null

/-- The part of a query that asks for one repository. -/
def repositoryQuery (repository : Option String) : List (String × String) :=
  repository.toList.map fun r => ("repository", r)

/-- **Lists** a page of the queue. -/
def listQueue (api : Url) (repository : Option String) (page perPage : Int64) : Work Json :=
  get api "api/v1/queue" ([("page", Decimal.ofInt page.toInt),
    ("per_page", Decimal.ofInt perPage.toInt)] ++ repositoryQuery repository)

/-- **Counts** the items of the queue. -/
def countQueue (api : Url) (repository : Option String) : Work Json :=
  get api "api/v1/queue/count" (repositoryQuery repository)

end Dispatch.Client
