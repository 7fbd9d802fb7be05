import Dispatch.Proofs.Concurrency.Starting

/-!
# Requests at the same time

The dispatcher meets any number of demands at the same time. Each takes one step after the other,
but between two steps of one request any others may take theirs. What is atomic is a single call to
the store. The code host answers at will, and no call to the store fails.

## Main definitions

* `Course`: a request in progress.
* `Traffic`: a store with the requests in progress.
* `Traffic.Move`, `Traffic.ReachableBy`: what can happen next, and what can come of it.
* `Traffic.play`: carries out given turns against a scripted code host.

## Main results

* `Traffic.play_reachable`: what given turns lead to is reachable.
-/

namespace Dispatch

/-- The **course of a request**: what it has under way, and what it is still going to do. -/
structure Course where
  underway : Underway
  rest : Program Unit

namespace Course

/-- The course of a demand at its beginning. -/
def begin (d : Demand) : Course := ⟨.none, d.operation.run.bind fun _ => .done ()⟩

/-- What the request is **starting**: what it has under way, unless it has ended. -/
def starting (c : Course) : Underway :=
  match c.rest with
  | .done _ => .none
  | _ => c.underway

/-- The next **step of a request**: it calls the store as is allowed, it is answered by the code
host, or it hands a notification over. -/
inductive Step (allowed : StoreCall → Bool) (s : Store) : Course → Store → Course → Prop
  | store {w : Underway} {call : StoreCall} {next : Except StoreError call.Reply → Program Unit}
      (now : Timestamp) (permit : allowed call = true) :
      Step allowed s ⟨w, .store call next⟩ (call.run now s).2
        ⟨w.next call (call.run now s).1, next (call.run now s).1⟩
  | host {w : Underway} {token : String} {call : HostCall}
      {next : Except HostError call.Reply → Program Unit} (reply : Except HostError call.Reply) :
      Step allowed s ⟨w, .host token call next⟩ s ⟨w, next reply⟩
  | notify {w : Underway} {n : Notification} {next : Program Unit} :
      Step allowed s ⟨w, .notify n next⟩ s ⟨w, next⟩

end Course

/-- A store with the requests that are **in progress** there. -/
structure Traffic where
  store : Store
  courses : List Course

namespace Traffic

/-- What can **happen next**: a demand arrives, a request takes its next step, or one that has
ended leaves. -/
inductive Move (allowed : Traffic → StoreCall → Bool) : Traffic → Traffic → Prop
  | arrive (d : Demand) (s : Store) (courses : List Course) :
      Move allowed ⟨s, courses⟩ ⟨s, courses ++ [.begin d]⟩
  | step {s s' : Store} {c c' : Course} (before after : List Course)
      (taken : c.Step (allowed ⟨s, before ++ c :: after⟩) s s' c') :
      Move allowed ⟨s, before ++ c :: after⟩ ⟨s', before ++ c' :: after⟩
  | leave (w : Underway) (s : Store) (before after : List Course) :
      Move allowed ⟨s, before ++ ⟨w, .done ()⟩ :: after⟩ ⟨s, before ++ after⟩

/-- What **can come** of users and repositories when any demands arrive at any time, and their
requests take turns in any order. -/
inductive ReachableBy (allowed : Traffic → StoreCall → Bool) : Traffic → Prop
  | opened {s : Store} : s.Seeded → ReachableBy allowed ⟨s, []⟩
  | move {t t' : Traffic} : ReachableBy allowed t → Move allowed t t' → ReachableBy allowed t'

/-! ### Given turns -/

/-- A **turn**: a demand arrives, or the request at a place among all takes its next step. -/
inductive Turn where
  | arrive (d : Demand)
  | step (place : Nat)

/-- A request takes its **next step**, if it has one that is allowed. -/
def advance (allowed : StoreCall → Bool) (host : HostScript) (now : Timestamp) (s : Store) :
    Course → Option (Store × Course)
  | ⟨w, .store call next⟩ =>
      if allowed call then
        some ((call.run now s).2, ⟨w.next call (call.run now s).1, next (call.run now s).1⟩)
      else none
  | ⟨w, .host _ call next⟩ => some (s, ⟨w, next (host.answer call).1⟩)
  | ⟨w, .notify _ next⟩ => some (s, ⟨w, next⟩)
  | _ => none

/-- What a **turn** leads to. -/
def turn (allowed : Traffic → StoreCall → Bool) (host : HostScript) (now : Timestamp)
    (t : Traffic) : Turn → Option Traffic
  | .arrive d => some ⟨t.store, t.courses ++ [.begin d]⟩
  | .step place =>
      match t.courses.drop place with
      | [] => none
      | c :: after =>
          (advance (allowed t) host now t.store c).map fun (s, c) =>
            ⟨s, t.courses.take place ++ c :: after⟩

/-- What **turns** lead to, one after the other. -/
def play (allowed : Traffic → StoreCall → Bool) (host : HostScript) (now : Timestamp) :
    List Turn → Traffic → Option Traffic
  | [], t => some t
  | next :: rest, t => (turn allowed host now t next).bind (play allowed host now rest)

variable {allowed : Traffic → StoreCall → Bool} {host : HostScript} {now : Timestamp}

theorem advance_step {permit : StoreCall → Bool} {s s' : Store} {c c' : Course}
    (h : advance permit host now s c = some (s', c')) : c.Step permit s s' c' := by
  obtain ⟨w, rest⟩ := c
  cases rest with
  | store call next =>
      rw [advance] at h
      split at h
      · rename_i permitted
        obtain ⟨rfl, rfl⟩ := Prod.mk.inj (Option.some.inj h)
        exact .store now permitted
      · cases h
  | host token call next =>
      obtain ⟨rfl, rfl⟩ := Prod.mk.inj (Option.some.inj h)
      exact .host _
  | notify n next =>
      obtain ⟨rfl, rfl⟩ := Prod.mk.inj (Option.some.inj h)
      exact .notify
  | done a => cases h
  | overrun => cases h

theorem turn_move {t t' : Traffic} {next : Turn} (h : turn allowed host now t next = some t') :
    Move allowed t t' := by
  obtain ⟨s, courses⟩ := t
  cases next with
  | arrive d =>
      obtain rfl := Option.some.inj h
      exact .arrive d s courses
  | step place =>
      rw [turn] at h
      split at h
      · cases h
      · rename_i c after rest
        obtain ⟨⟨s', c'⟩, taken, rfl⟩ := Option.map_eq_some_iff.mp h
        have whole : courses = courses.take place ++ c :: after := by
          rw [← rest, List.take_append_drop]
        generalize courses.take place = before at whole ⊢
        subst whole
        exact .step before after (advance_step taken)

/-- What given turns lead to **is reachable**. -/
theorem play_reachable {t t' : Traffic} {turns : List Turn} (h : ReachableBy allowed t)
    (played : play allowed host now turns t = some t') : ReachableBy allowed t' := by
  induction turns generalizing t with
  | nil =>
      obtain rfl := Option.some.inj played
      exact h
  | cons next rest ih =>
      obtain ⟨t₁, first, later⟩ := Option.bind_eq_some_iff.mp played
      exact ih (h.move (turn_move first)) later

end Traffic

end Dispatch
