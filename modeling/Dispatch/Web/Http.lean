import Dispatch.Dialogue
import Dispatch.Json.Reader
import Dispatch.Text.Utf8
import Dispatch.Web.Url

/-!
# Requests to a server

## Main definitions

* `Http.Request`, `Http.Response`: what is sent to a server and what comes back.
* `Http.Exchange`: work that sends requests and waits for what comes back.
-/

namespace Dispatch.Http

/-- A **request**. A body is always in JSON. -/
structure Request where
  method : String
  url : Url
  headers : List (String × String)
  body : Option Json

namespace Request

/-- A request without a body. -/
def get (url : Url) (headers : List (String × String)) : Request := ⟨"GET", url, headers, none⟩

/-- A request with a body, whose type a header gives. -/
def post (url : Url) (headers : List (String × String)) (body : Json) : Request :=
  ⟨"POST", url, headers ++ [("content-type", "application/json")], some body⟩

end Request

/-- What **comes back** from a server. -/
structure Response where
  status : UInt16
  body : List UInt8

namespace Response

/-- The request has been carried out. -/
def isSuccess (r : Response) : Bool := 200 ≤ r.status && r.status < 300

/-- The value in JSON that the body holds. -/
def json? (r : Response) : Option Json := (Text.ofUtf8? r.body).bind Json.parse?

end Response

/-- A request to which **nothing came back**. -/
inductive Failure where
  /-- No request can be sent to an address with this scheme. -/
  | badScheme (url : Url)
  /-- The server could not be reached. Each reason stems from the one after it. -/
  | unanswered (url : Url) (reasons : List String)

namespace Failure

/-- The wording of a failure, without the reasons. -/
def message : Failure → String
  | badScheme url => "builder error for url (" ++ url.text ++ ")"
  | unanswered url _ => "error sending request for url (" ++ url.text ++ ")"

/-- The reasons of a failure, the nearest first. -/
def reasons : Failure → List String
  | badScheme _ => ["URL scheme is not allowed"]
  | unanswered _ reasons => reasons

end Failure

/-- The answer to a request. -/
abbrev Outcome := Except Failure Response

/-- A request can be sent to the address. -/
def isReachable (url : Url) : Bool := url.scheme = "http" || url.scheme = "https"

/-- **Sends** a request with the given means, if a request can be sent there at all. -/
def sendVia {m : Type → Type} [Monad m] (means : Request → m Outcome) (r : Request) :
    m Outcome :=
  if isReachable r.url then means r else return .error (.badScheme r.url)

/-- Work that **sends requests** one after the other. -/
abbrev Exchange := Dialogue Request fun _ => Outcome

end Dispatch.Http
