import Dispatch.Proofs.GitHub.Requests
import Mathlib.Data.List.Sort

/-!
# Statuses that override others

A commit that a newer run has overtaken has statuses that nobody will bring up to date. The client
has them listed, the newest first, and puts an error in place of each. A commit may have many
statuses with one context, of which only the newest shows, so one error for each context will do.

## Main definitions

* `CommitStatus.overridden`: what such an error says.
* `GitHub.Overrides`: the statuses that are due in place of those that a commit has.
* `GitHub.Sending`: how it goes to send requests one after the other.

## Main results

* `GitHub.Overrides.unique`: the statuses that a commit has settle which are due.
* `GitHub.clearStatuses_overrides`: what is due is posted, up to the first refusal.
-/

namespace Dispatch

namespace CommitStatus

/-- The **wording** of a status that overrides others. -/
def overridden : String :=
  "The run that this test was a part of has been overridden by a " ++
    "new run. Pushing a new change will remove this error."

/-- The wording is not too long to be posted **in full**. -/
theorem cleared_eq (context url : String) :
    cleared context url = ⟨context, .error, url, overridden⟩ := by
  have full : cap overridden = overridden := by
    rw [cap, List.take_of_length_le (by decide +kernel), String.ofList_toList]
  exact congrArg (CommitStatus.mk context .error url) full

end CommitStatus

namespace GitHub

open Http

variable {c : Client} {server : Server} {before sent requests : List Request} {request : Request}
  {url : Url} {repository sha : String} {seen : List String} {s : PostedStatus}
  {statuses rest : List PostedStatus} {due due' : List CommitStatus}
  {result : Except HostError Unit × List Request}

/-! ### What is due -/

/-- The status that **overrides** those with a context: an error, which leads where the newest of
them does. -/
def override (statuses : List PostedStatus) (context : String) : CommitStatus :=
  ⟨context, .error, ((statuses.find? (·.context = context)).bind (·.targetUrl)).getD "",
    CommitStatus.overridden⟩

/-- One context **appears before** another one. -/
def AppearsBefore (statuses : List PostedStatus) (context context' : String) : Prop :=
  (statuses.map (·.context)).idxOf context < (statuses.map (·.context)).idxOf context'

instance : Std.Irrefl (AppearsBefore statuses) := ⟨fun _ => Nat.lt_irrefl _⟩

instance : Std.Antisymm (AppearsBefore statuses) :=
  ⟨fun _ _ before after => absurd after (Nat.lt_asymm before)⟩

/-- The statuses that are **due** in place of those that a commit has, the newest of which comes
first: one for each context that has not been seen, in the order in which the contexts appear. -/
structure Overrides (seen : List String) (statuses : List PostedStatus)
    (due : List CommitStatus) : Prop where
  covers : ∀ context, context ∈ due.map (·.context) ↔
    context ∈ statuses.map (·.context) ∧ context ∉ seen
  inOrder : (due.map (·.context)).Pairwise (AppearsBefore statuses)
  replaces : ∀ status ∈ due, status = override statuses status.context

/-- No context is due **twice**. -/
theorem Overrides.nodup (h : Overrides seen statuses due) : (due.map (·.context)).Nodup :=
  h.inOrder.imp ne_of_irrefl

/-- What is due can be told from **the contexts** alone. -/
theorem Overrides.map_override (h : Overrides seen statuses due) :
    (due.map (·.context)).map (override statuses) = due := by
  rw [List.map_map]
  conv_rhs => rw [← List.map_id due]
  exact List.map_congr_left fun status mem => (h.replaces status mem).symm

/-- The statuses that a commit has **settle** which are due. -/
theorem Overrides.unique (h : Overrides seen statuses due) (h' : Overrides seen statuses due') :
    due = due' := by
  have contexts : due.map (·.context) = due'.map (·.context) :=
    h.inOrder.eq_of_mem_iff h'.inOrder fun context => by rw [h.covers, h'.covers]
  rw [← h.map_override, contexts, h'.map_override]

theorem appearsBefore_cons {a b : String} (other : a ≠ s.context) (other' : b ≠ s.context) :
    AppearsBefore (s :: rest) a b ↔ AppearsBefore rest a b := by
  simp [AppearsBefore, List.idxOf_cons_ne _ other.symm, List.idxOf_cons_ne _ other'.symm]

theorem override_cons {context : String} (other : context ≠ s.context) :
    override (s :: rest) context = override rest context := by
  simp [override, other.symm]

theorem override_self : override (s :: rest) s.context =
    CommitStatus.cleared s.context (s.targetUrl.getD "") := by
  simp [override, CommitStatus.cleared_eq]

/-- A context that **has been seen** is not due. -/
theorem Overrides.ne_of_mem (h : Overrides seen statuses due) (known : s.context ∈ seen) :
    ∀ context ∈ due.map (·.context), context ≠ s.context := by
  rintro context mem rfl
  exact ((h.covers _).mp mem).2 known

/-- What is due **appears in the same order** behind a status whose context has been seen. -/
theorem Overrides.inOrder_cons (h : Overrides seen rest due) (known : s.context ∈ seen) :
    (due.map (·.context)).Pairwise (AppearsBefore (s :: rest)) :=
  h.inOrder.imp_of_mem fun mem mem' =>
    (appearsBefore_cons (h.ne_of_mem known _ mem) (h.ne_of_mem known _ mem')).mpr

/-- What is due **leads to the same places** behind a status whose context has been seen. -/
theorem Overrides.replaces_cons (h : Overrides seen rest due) (known : s.context ∈ seen) :
    ∀ status ∈ due, status = override (s :: rest) status.context := by
  intro status mem
  rw [override_cons (h.ne_of_mem known _ (List.mem_map_of_mem mem))]
  exact h.replaces status mem

/-- A status whose context **has been seen** makes no difference. -/
theorem Overrides.skip (h : Overrides seen rest due) (known : s.context ∈ seen) :
    Overrides seen (s :: rest) due := by
  refine ⟨fun context => ?_, h.inOrder_cons known, h.replaces_cons known⟩
  rw [h.covers, List.map_cons, List.mem_cons]
  constructor
  · exact fun ⟨mem, new⟩ => ⟨.inr mem, new⟩
  · rintro ⟨rfl | mem, new⟩
    · exact absurd known new
    · exact ⟨mem, new⟩

/-- A status with **a new context** is overridden, and is the only one of its context that is. -/
theorem Overrides.cons (h : Overrides (s.context :: seen) rest due) (new : s.context ∉ seen) :
    Overrides seen (s :: rest) (.cleared s.context (s.targetUrl.getD "") :: due) := by
  have known : s.context ∈ s.context :: seen := List.mem_cons_self
  refine ⟨fun context => ?_, ?_,
    List.forall_mem_cons.mpr ⟨override_self.symm, h.replaces_cons known⟩⟩
  · rw [List.map_cons, List.map_cons, List.mem_cons, List.mem_cons, h.covers, List.mem_cons]
    by_cases same : context = s.context
    · simp [same, CommitStatus.cleared, new]
    · simp [same, CommitStatus.cleared]
  · rw [List.map_cons, List.pairwise_cons]
    refine ⟨fun context mem => ?_, h.inOrder_cons known⟩
    simp [AppearsBefore, CommitStatus.cleared,
      List.idxOf_cons_ne _ (h.ne_of_mem known _ mem).symm]

/-- The statuses that the client **posts** in place of others. -/
def overriding : (seen : List String) → List PostedStatus → List CommitStatus
  | _, [] => []
  | seen, s :: rest =>
    if seen.contains s.context then overriding seen rest
    else .cleared s.context (s.targetUrl.getD "") :: overriding (s.context :: seen) rest

/-- The client posts **what is due**. -/
theorem overrides_overriding (seen : List String) (statuses : List PostedStatus) :
    Overrides seen statuses (overriding seen statuses) := by
  fun_induction overriding seen statuses with
  | case1 seen => exact ⟨by simp, .nil, by simp⟩
  | case2 seen s rest known ih => exact ih.skip (by simpa using known)
  | case3 seen s rest new ih => exact ih.cons (by simpa using new)

/-! ### Posting -/

/-- A server **accepts** requests that it gets one after the other. -/
def Accepts (server : Server) : (before : List Request) → List Request → Prop
  | _, [] => True
  | before, request :: rest => (∃ response, received (server before request) = .ok response) ∧
      Accepts server (before ++ [request]) rest

/-- How it goes to **send requests** one after the other: the server accepts them all, or refuses
one, and then the client ends with what it has been told and sends no more. -/
inductive Sending (server : Server) (before requests : List Request) :
    Except HostError Unit × List Request → Prop
  | all (accepted : Accepts server before requests) :
      Sending server before requests (.ok (), before ++ requests)
  | upTo {done left : List Request} {failed : Request} {e : HostError}
      (divided : requests = done ++ failed :: left) (accepted : Accepts server before done)
      (refused : received (server (before ++ done) failed) = .error e) :
      Sending server before requests (.error e, before ++ done ++ [failed])

theorem Sending.nil : Sending server before [] (.ok (), before) := by
  have ends : Sending server before [] (.ok (), before ++ []) := .all trivial
  rwa [List.append_nil] at ends

theorem Sending.stop {e : HostError} (refused : received (server before request) = .error e)
    (requests : List Request) :
    Sending server before (request :: requests) (.error e, before ++ [request]) := by
  have ends : Sending server before (request :: requests) (.error e, before ++ [] ++ [request]) :=
    .upTo rfl trivial (by rwa [List.append_nil])
  rwa [List.append_nil] at ends

theorem Sending.cons {response : Response} (ok : received (server before request) = .ok response)
    (h : Sending server (before ++ [request]) requests result) :
    Sending server before (request :: requests) result := by
  have shift (front : List Request) :
      before ++ [request] ++ front = before ++ request :: front := by simp
  cases h with
  | all accepted =>
      rw [shift]
      exact .all ⟨⟨response, ok⟩, accepted⟩
  | upTo divided accepted refused =>
      rw [shift] at refused ⊢
      exact .upTo (by rw [divided, List.cons_append]) ⟨⟨response, ok⟩, accepted⟩ refused

/-- Tasks that each take one request are a matter of **sending these**. -/
theorem sending_forM {α : Type} {work : α → Work Unit} {request : α → Request}
    (each : ∀ before a, serve server before (work a) =
      ((received (server before (request a))).map fun _ => (), before ++ [request a]))
    (before : List Request) (tasks : List α) :
    Sending server before (tasks.map request) (serve server before (forM tasks work)) := by
  induction tasks generalizing before with
  | nil => exact .nil
  | cons a tasks ih =>
      rw [List.forM_cons, serve_bind, each]
      cases answer : received (server before (request a)) with
      | error e => exact .stop answer _
      | ok response => exact .cons answer (ih _)

namespace Client

theorem overrideStatuses_eq (c : Client) (repository sha : String) (seen : List String)
    (statuses : List PostedStatus) : c.overrideStatuses repository sha seen statuses =
      forM (overriding seen statuses) (c.postStatus repository sha) := by
  fun_induction overriding seen statuses with
  | case1 seen => rfl
  | case2 seen s rest known ih => rw [overrideStatuses, if_pos known, ih]
  | case3 seen s rest new ih => rw [overrideStatuses, if_neg new, ih, List.forM_cons]

/-- The request that **posts** a status. -/
def posting (c : Client) (url : Url) (status : CommitStatus) : Request :=
  .post url (c.headers jsonForm) status.toJson

theorem serve_postStatus
    (found : c.address ("repos/" ++ repository ++ "/statuses/" ++ sha) = .ok url)
    (reachable : isReachable url = true) (before : List Request) (status : CommitStatus) :
    serve server before (c.postStatus repository sha status) =
      ((received (server before (c.posting url status))).map fun _ => (),
        before ++ [c.posting url status]) := by
  rw [postStatus, serve_post found reachable, posting]

/-- The statuses that a commit has, as they are **reported** to the client. -/
def reported (c : Client) (repository sha : String) : Work (List PostedStatus) :=
  c.get ("repos/" ++ repository ++ "/commits/" ++ sha ++ "/statuses") []
    (Json.list? PostedStatus.ofJson?)

end Client

/-- **What is due is posted.** Once the statuses of a commit have been reported, in one request, the
client posts what is due in place of them: an error for each context that there is, in the order in
which the contexts appear, which leads where the newest status with the context does. If a
post is refused, it ends with the error and posts no more, and otherwise it posts all. -/
theorem clearStatuses_overrides
    (reported : serve server before (c.reported repository sha) = (.ok statuses, sent)) :
    ∃ due url, Overrides [] statuses due ∧ (due.map (·.context)).Nodup ∧
      (∀ due', Overrides [] statuses due' → due' = due) ∧
      c.address ("repos/" ++ repository ++ "/statuses/" ++ sha) = .ok url ∧
      (∃ listed, sent = before ++ [.get listed (c.headers Client.jsonForm)]) ∧
      Sending server sent (due.map (c.posting url))
        (serve server before (c.answer (.clearStatuses repository sha))) := by
  obtain ⟨listed, found, reachable, rfl⟩ := Client.serve_get_ok reported
  simp only [String.append_assoc] at found
  obtain ⟨url, found', sameScheme⟩ := Client.address_of_address found
    (repository ++ ("/statuses/" ++ sha))
  simp only [← String.append_assoc] at found'
  have reachable' : isReachable url = true := by
    rw [isReachable, sameScheme]
    exact reachable
  have due := overrides_overriding [] statuses
  refine ⟨_, url, due, due.nodup, fun due' own => own.unique due, found', ⟨listed, rfl⟩, ?_⟩
  have goesOn : c.answer (.clearStatuses repository sha) =
      c.reported repository sha >>= c.overrideStatuses repository sha [] := rfl
  rw [goesOn, serve_bind_ok reported, Client.overrideStatuses_eq]
  exact sending_forM (Client.serve_postStatus found' reachable') _ _

end GitHub

namespace Sample

/-- The statuses of a commit: two with one context, and one that leads nowhere. -/
def postedStatuses : List GitHub.PostedStatus :=
  [⟨"test", some "/2"⟩, ⟨"lint", none⟩, ⟨"test", some "/1"⟩]

/-- What a server reports of them. -/
def statusReport : String :=
  "[\x7b\"context\":\"test\",\"target_url\":\"/2\"\x7d,\x7b\"context\":\"lint\"\x7d," ++
    "\x7b\"context\":\"test\",\"target_url\":\"/1\"\x7d]"

/-- A server that has the statuses, and takes no more than one other instead. -/
def statusServer : Http.Server := fun before request =>
  if request.method = "GET" then .ok ⟨200, Text.encodeUtf8 statusReport⟩
  else if before.length ≤ 1 then .ok ⟨201, []⟩
  else .ok ⟨422, Text.encodeUtf8 "no more"⟩

end Sample

namespace GitHub

open Http

/-- The second of two posts **is refused**. -/
theorem clearStatuses_overrides_sample : ∃ sent url,
    serve Sample.statusServer [] (Sample.enterpriseClient.reported "ada/tool" "f00d") =
      (.ok Sample.postedStatuses, sent) ∧
    Sending Sample.statusServer sent
      ([.cleared "test" "/2", .cleared "lint" ""].map (Sample.enterpriseClient.posting url))
      (serve Sample.statusServer [] (Sample.enterpriseClient.answer
        (.clearStatuses "ada/tool" "f00d"))) ∧
    (serve Sample.statusServer [] (Sample.enterpriseClient.answer
        (.clearStatuses "ada/tool" "f00d"))).1 = .error (.api 422 "no more") := by
  have reported : serve Sample.statusServer []
      (Sample.enterpriseClient.reported "ada/tool" "f00d") = (.ok Sample.postedStatuses, _) :=
    Prod.ext (by decide +kernel) rfl
  obtain ⟨due, url, -, -, settled, -, -, sending⟩ := clearStatuses_overrides reported
  have own := settled _ (overrides_overriding [] Sample.postedStatuses)
  have posts : overriding [] Sample.postedStatuses =
      [.cleared "test" "/2", .cleared "lint" ""] := by decide +kernel
  rw [← own, posts] at sending
  exact ⟨_, url, reported, sending, by decide +kernel⟩

end GitHub

end Dispatch
