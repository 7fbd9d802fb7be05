import Dispatch.Decimal.Integer
import Dispatch.Git.Sha
import Dispatch.GitHub.Payload
import Dispatch.Json.Printer
import Dispatch.Web.Form
import Dispatch.Web.Http
import Dispatch.Web.Url.Reading

/-!
# GitHub as a code host

The calls to a code host become requests to the interface of GitHub.

## Main definitions

* `GitHub.Client`: where GitHub is and under which credential to turn to it.
* `GitHub.Client.answer`: the requests for a call, and what the replies mean.
* `GitHub.Client.overrideStatuses`: puts an error in place of every status of a commit.
-/

namespace Dispatch.GitHub

/-- A **client** for one credential. -/
structure Client where
  /-- The address below which all resources are. -/
  base : Url
  token : String

/-- Work of a client, which may end with an error. -/
abbrev Work := ExceptT HostError Http.Exchange

namespace Client

/-- The client for GitHub at an address. -/
def ofAddress (address : Url) (token : String) : Client := ⟨address.withFinalSlash, token⟩

/-! ### Requests -/

/-- The name that the client gives itself. -/
def agent : String := "ferry-ci"

/-- The form of reply to ask for in general. -/
def jsonForm : String := "application/vnd.github+json"

/-- The form of reply to ask for if it is to be the content of a file. -/
def rawForm : String := "application/vnd.github.raw"

/-- The headers of every request. -/
def headers (c : Client) (form : String) : List (String × String) :=
  [("authorization", "Bearer " ++ c.token), ("user-agent", agent), ("accept", form)]

/-- The **address of a resource** below the address of the client. -/
def address (c : Client) (path : String) : Except HostError Url :=
  match c.base.join path with
  | .ok url => .ok url
  | .error e => .error (.invalid (path ++ ": " ++ e.message))

/-- A path with each of its segments encoded. -/
def encodedPath (path : String) : String :=
  String.ofList (Text.ofSegments ((Text.segments path.toList).map fun segment =>
    Percent.encode Percent.isUnreserved (String.ofList segment)))

/-- Sends a request; only a reply that says success is taken for one. -/
def send (r : Http.Request) : Work Http.Response := do
  match ← ExceptT.lift (Http.sendVia Dialogue.question r) with
  | .error failure => throw (.request failure.message)
  | .ok response =>
    if response.isSuccess then return response
    else
      let message := Text.ofBytes response.body
      throw (if response.status = 404 then .notFound message else .api response.status message)

/-- What a reply in JSON means. -/
def meaning {α : Type} (read : Json → Option α) (r : Http.Response) : Work α :=
  match r.json?.bind read with
  | some a => return a
  | none => throw (.parse "error decoding response body")

/-- Asks for a resource with a query. -/
def fetch (c : Client) (form path : String) (query : List (String × String)) :
    Work Http.Response := do
  let url ← c.address path
  send (.get (if query.isEmpty then url else url.addQuery (Form.write query)) (c.headers form))

/-- Asks for a resource in JSON. -/
def get {α : Type} (c : Client) (path : String) (query : List (String × String))
    (read : Json → Option α) : Work α := do
  meaning read (← c.fetch jsonForm path query)

/-- Sends a record to a resource. -/
def post (c : Client) (path : String) (body : Json) : Work Unit := do
  let url ← c.address path
  let _ ← send (.post url (c.headers jsonForm) body)

/-! ### Calls -/

/-- The files of a commit. -/
def listFiles (c : Client) (repository sha : String) : Work (List String) := do
  let tree ← c.get ("repos/" ++ repository ++ "/git/trees/" ++ sha) [("recursive", "1")]
    Tree.ofJson?
  if tree.truncated then
    throw (.invalid ("tree for " ++ repository ++ "@" ++ sha ++ " is too large to list"))
  return tree.files

/-- Puts a status on a commit, in place of one with the same context. -/
def postStatus (c : Client) (repository sha : String) (status : CommitStatus) : Work Unit :=
  c.post ("repos/" ++ repository ++ "/statuses/" ++ sha) status.toJson

/-- **Overrides statuses**, given the newest first: each context that has not been seen gets one
status, which leads where the newest of the old ones did. -/
def overrideStatuses (c : Client) (repository sha : String) :
    (seen : List String) → List PostedStatus → Work Unit
  | _, [] => return ()
  | seen, s :: rest => do
    if seen.contains s.context then c.overrideStatuses repository sha seen rest
    else
      c.postStatus repository sha (.cleared s.context (s.targetUrl.getD ""))
      c.overrideStatuses repository sha (s.context :: seen) rest

/-- What a client **does for a call**. -/
def answer (c : Client) : (call : HostCall) → Work call.Reply
  | .getRepository name => c.get ("repos/" ++ name) [] repository?
  | .getSha repository ref =>
    c.get ("repos/" ++ repository ++ "/git/ref/" ++ encodedPath ref) [] commit?
  | .getRefs repository sha =>
    c.get ("repos/" ++ repository ++ "/commits/" ++ sha ++ "/branches-where-head") [] branches?
  | .listFiles repository sha => c.listFiles repository sha
  | .getFile repository revision path => do
    let response ← c.fetch rawForm ("repos/" ++ repository ++ "/contents/" ++ encodedPath path)
      [("ref", revision)]
    return response.body
  | .getDiff repository base head =>
    if base = Git.zeroHash then c.listFiles repository head
    else c.get ("repos/" ++ repository ++ "/compare/" ++ base ++ "..." ++ head) [] comparison?
  | .postStatus repository sha status => c.postStatus repository sha status
  | .clearStatuses repository sha => do
    let statuses ← c.get ("repos/" ++ repository ++ "/commits/" ++ sha ++ "/statuses") []
      (Json.list? PostedStatus.ofJson?)
    c.overrideStatuses repository sha [] statuses
  | .comment repository number text =>
    c.post ("repos/" ++ repository ++ "/issues/" ++ Decimal.ofInt number.toInt ++ "/comments")
      (.object [("body", .text text)])

end Client

end Dispatch.GitHub
