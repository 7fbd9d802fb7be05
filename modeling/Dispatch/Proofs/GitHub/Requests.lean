import Dispatch.GitHub.Client
import Dispatch.Proofs.Web.Reference

/-!
# The requests of a client

What a client does for a call is a sequence of requests, each of which may depend on the replies to
those before it. A server answers them, and may keep them in mind. All resources are below a first
segment `repos`, so whether requests can be sent at all is a matter of the address of the client.

## Main definitions

* `Http.Server`: what answers requests.
* `GitHub.serve`: how work of a client goes with a server.
* `GitHub.received`: what comes of a request.
* `GitHub.IsApi`: an address to which requests can be sent.

## Main results

* `GitHub.serve_bind`: work is served one part after the other.
* `GitHub.Client.exists_address`: where a resource is.
* `GitHub.isApi_of_parse`: which addresses requests can be sent to.
-/

namespace Dispatch

namespace Http

/-- A **server** answers each request, in view of those that it has got before. -/
abbrev Server := (before : List Request) → Request → Http.Outcome

namespace Server

variable {α β : Type}

/-- A server **answers** a request, and has got it then. -/
def answer (server : Server) (request : Request) : StateM (List Request) Http.Outcome :=
  fun before => (server before request, before ++ [request])

/-- Holds an exchange **with a server** that has got some requests before: what it comes to, and all
the requests that the server has got then. -/
def hold (server : Server) (before : List Request) (exchange : Exchange α) : α × List Request :=
  Dialogue.hold server.answer exchange before

theorem hold_bind (server : Server) (before : List Request) (exchange : Exchange α)
    (f : α → Exchange β) : server.hold before (exchange.bind f) =
      server.hold (server.hold before exchange).2 (f (server.hold before exchange).1) := by
  rw [hold, Dialogue.hold_bind]
  rfl

end Server

end Http

namespace GitHub

open Http

variable {α β : Type} {c : Client} {server : Server} {before : List Request} {request : Request}
  {address url : Url} {path : String}

/-! ### Serving -/

/-- How work of a client **goes** with a server that has got some requests before: the result, and
all the requests that the server has got then. -/
def serve (server : Server) (before : List Request) (work : Work α) :
    Except HostError α × List Request :=
  server.hold before work.run

/-- What **comes of a request**: the reply, if it says success. -/
def received : Http.Outcome → Except HostError Response
  | .error failure => .error (.request failure.message)
  | .ok response =>
    if response.isSuccess then .ok response
    else if response.status = 404 then .error (.notFound (Text.ofBytes response.body))
    else .error (.api response.status (Text.ofBytes response.body))

theorem serve_lift (x : Except HostError α) :
    serve server before (liftM x : Work α) = (x, before) := rfl

/-- Work is served **one part after the other**, up to the first error. -/
theorem serve_bind (work : Work α) (f : α → Work β) : serve server before (work >>= f) =
    match serve server before work with
    | (.ok a, sent) => serve server sent (f a)
    | (.error e, sent) => (.error e, sent) := by
  rw [serve, ExceptT.run_bind, Dialogue.bind_eq, Server.hold_bind, ← serve]
  rcases serve server before work with ⟨_ | _, _⟩ <;> rfl

theorem serve_bind_ok {work : Work α} {a : α} {sent : List Request}
    (h : serve server before work = (.ok a, sent)) (f : α → Work β) :
    serve server before (work >>= f) = serve server sent (f a) := by
  rw [serve_bind, h]

theorem serve_bind_error {work : Work α} {e : HostError} {sent : List Request}
    (h : serve server before work = (.error e, sent)) (f : α → Work β) :
    serve server before (work >>= f) = (.error e, sent) := by
  rw [serve_bind, h]

namespace Client

/-- A request is **sent** if it can be. -/
theorem serve_send (reachable : isReachable request.url = true) :
    serve server before (send request) =
      (received (server before request), before ++ [request]) := by
  have sent : serve server before (ExceptT.lift (sendVia Dialogue.question request)) =
      (.ok (server before request), before ++ [request]) := by
    rw [sendVia, if_pos reachable]
    rfl
  rw [send, serve_bind_ok sent]
  cases server before request with
  | error failure => rfl
  | ok response =>
      dsimp only
      rw [received]
      split
      · rfl
      · split <;> rfl

theorem serve_send_unreachable (unreachable : isReachable request.url = false) :
    serve server before (send request) =
      (.error (.request (Failure.badScheme request.url).message), before) := by
  have kept : serve server before (ExceptT.lift (sendVia Dialogue.question request)) =
      (.ok (.error (.badScheme request.url)), before) := by
    rw [sendVia, if_neg (by simp [unreachable])]
    rfl
  rw [send, serve_bind_ok kept]
  rfl

/-- To **ask for a resource** takes one request. -/
theorem serve_fetch (found : c.address path = .ok url) (reachable : isReachable url = true)
    (form : String) : serve server before (c.fetch form path []) =
      (received (server before (.get url (c.headers form))),
        before ++ [.get url (c.headers form)]) := by
  rw [fetch, found, serve_bind_ok (serve_lift _)]
  exact serve_send reachable

/-- What a reply means **takes no request**. -/
theorem serve_meaning (read : Json → Option α) (response : Response) :
    (serve server before (meaning read response)).2 = before := by
  rw [meaning]
  split <;> rfl

/-- To **get a resource** takes one request, which can be sent. -/
theorem serve_get_ok {read : Json → Option α} {a : α} {sent : List Request}
    (h : serve server before (c.get path [] read) = (.ok a, sent)) :
    ∃ url, c.address path = .ok url ∧ isReachable url = true ∧
      sent = before ++ [.get url (c.headers jsonForm)] := by
  rw [get, serve_bind] at h
  cases found : c.address path with
  | error e =>
      rw [fetch, found, serve_bind_error (serve_lift _)] at h
      cases h
  | ok url =>
      by_cases reachable : isReachable url = true
      · refine ⟨url, rfl, reachable, ?_⟩
        rw [serve_fetch found reachable] at h
        cases answer : received (server before (.get url (c.headers jsonForm))) with
        | error e =>
            rw [answer] at h
            cases h
        | ok response =>
            rw [answer] at h
            exact (congrArg Prod.snd h).symm.trans (serve_meaning read response)
      · rw [fetch, found, serve_bind_ok (serve_lift _)] at h
        have kept : serve server before (send (.get url (c.headers jsonForm))) = _ :=
          serve_send_unreachable (eq_false_of_ne_true reachable)
        rw [if_pos (by rfl), kept] at h
        cases h

/-- To **send a record** to a resource takes one request. -/
theorem serve_post (found : c.address path = .ok url) (reachable : isReachable url = true)
    (body : Json) : serve server before (c.post path body) =
      ((received (server before (.post url (c.headers jsonForm) body))).map fun _ => (),
        before ++ [.post url (c.headers jsonForm) body]) := by
  rw [post, found, serve_bind_ok (serve_lift _), serve_bind, serve_send reachable]
  cases received (server before (.post url (c.headers jsonForm) body)) <;> rfl

/-! ### Addresses -/

/-- The first segment of the path to all resources. -/
def repos : List Char := "repos".toList

theorem isStem_repos : Url.IsStem repos := by decide

theorem begins_repos (rest : String) : ("repos/" ++ rest).toList = repos ++ '/' :: rest.toList := by
  simp [repos]

/-- Where a **resource** is: on the machine of the client, if its address has a hierarchy, and
otherwise nowhere. -/
theorem exists_address (c : Client) (rest : String) :
    (∃ parts url, c.base.path = .segments parts ∧ c.address ("repos/" ++ rest) = .ok url ∧
      url.scheme = c.base.scheme ∧ url.authority = c.base.authority) ∨
    ((∃ text, c.base.path = .opaqueText text) ∧
      c.address ("repos/" ++ rest) =
        .error (.invalid ("repos/" ++ rest ++ ": " ++ UrlError.opaqueBase.message))) := by
  cases form : c.base.path with
  | segments parts =>
      obtain ⟨url, joined, scheme, authority, -⟩ :=
        Url.join_stem form isStem_repos (begins_repos rest)
      exact .inl ⟨parts, url, rfl, by rw [address, joined], scheme, authority⟩
  | opaqueText text =>
      have joined := Url.join_stem_opaque form isStem_repos (begins_repos rest)
      exact .inr ⟨⟨text, rfl⟩, by rw [address, joined]⟩

/-- If one resource can be asked for, **so can any other**. -/
theorem address_of_address {rest : String} (found : c.address ("repos/" ++ rest) = .ok url)
    (rest' : String) : ∃ url', c.address ("repos/" ++ rest') = .ok url' ∧
      url'.scheme = url.scheme := by
  rcases c.exists_address rest with ⟨_, own, form, found', scheme, -⟩ | ⟨-, missing⟩
  · obtain rfl := Except.ok.inj (found.symm.trans found')
    rcases c.exists_address rest' with ⟨_, url', -, found', scheme', -⟩ | ⟨⟨_, form'⟩, -⟩
    · exact ⟨url', found', scheme'.trans scheme.symm⟩
    · rw [form] at form'
      cases form'
  · rw [found] at missing
    cases missing

end Client

/-! ### Addresses of the interface -/

/-- An address to which **requests can be sent**. -/
structure IsApi (address : Url) : Prop where
  reachable : isReachable address = true
  hierarchical : address.IsHierarchical

theorem isSpecial_of_isReachable (reachable : isReachable address = true) :
    Url.isSpecial address.scheme = true := by
  simp only [isReachable, Bool.or_eq_true, decide_eq_true_eq] at reachable
  rcases reachable with own | own <;> rw [own] <;> decide

/-- Requests can be sent to **any address that is read** and is of the right scheme. -/
theorem isApi_of_parse {text : String} (read : Url.parse text = .ok address)
    (reachable : isReachable address = true) : IsApi address :=
  ⟨reachable, Url.parse_isHierarchical read (isSpecial_of_isReachable reachable)⟩

end GitHub

namespace Sample

/-- Where an organization has GitHub on a machine of its own. -/
def enterprise : Url :=
  ⟨"https", some ⟨"", "", .name "ghe.example.com", none⟩, .segments ["api", "v3"], none, none⟩

theorem isApi_enterprise : GitHub.IsApi enterprise := by
  have read : Url.parse "https://ghe.example.com/api/v3" = .ok enterprise := by decide +kernel
  exact GitHub.isApi_of_parse read (by decide +kernel)

/-- A client for it. -/
def enterpriseClient : GitHub.Client := .ofAddress enterprise "token"

end Sample

end Dispatch
