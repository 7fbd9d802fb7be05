import Dispatch.Proofs.Interruption
import Dispatch.Proofs.Queue.Outcome

/-!
# Stranded items

A claim is never undone. So when a call to the store does not succeed after an item has been
claimed, whoever asked for work gets an error, and the item stays claimed by a worker that does not
know of it. No other error strands an item.

## Main definitions

* `Trace.failed`: the calls to the store that did not succeed.
* `Worker.StrandsNone`: no item has been claimed for nothing.

## Main results

* `Worker.next_strandsNone_iff`: an error strands no item exactly if no call has failed but the
  claim.
* `Worker.next_strands`: that an error can strand an item.
-/

namespace Dispatch

/-- A call to the store that **did not succeed**: it was refused, or it failed before it took
effect. -/
def Event.failed? : Event → Option StoreCall
  | .store call (.error _) => some call
  | .fault call _ => some call
  | _ => none

/-- The calls to the store that **did not succeed**, the oldest first. -/
def Trace.failed (tr : Trace) : List StoreCall := tr.filterMap Event.failed?

namespace Worker

open Operation Store

/-- **No item is stranded**: none has been claimed that had not been before, and an item that was
taken waits again, or it has left the queue and its run has failed. -/
structure StrandsNone (s : Store) (tr : Trace) (s' : Store) : Prop where
  claimed : ∀ i ∈ s'.queue, i.running = true → ∃ j ∈ s.queue, j.id = i.id ∧ j.running = true
  taken : ∀ queue worker item, Event.store (.dequeue queue worker) (.ok item) ∈ tr →
    (∃ i ∈ s'.queue, i.id = item.id ∧ i.running = false) ∨
      (∀ i ∈ s'.queue, i.id ≠ item.id) ∧ ∃ r ∈ s'.runs, r.id = item.run.id ∧ r.status = some false

variable {s s' : Store} {queue worker : String} {tr : Trace} {e : OperationError}

/-- A claimed item that is **not returned**: a call has not succeeded, and then nothing has changed,
or its run has failed. -/
theorem resolve_error (whole : s.Integrity) {item : QueueItem}
    (h : (resolve item).Ends s tr (.error e) s') :
    (∀ queue worker item', Event.store (.dequeue queue worker) (.ok item') ∉ tr) ∧
      ((s' = s ∧ ∃ call ∈ tr.failed, ∀ queue worker, call ≠ .dequeue queue worker) ∨
        tr.failed = [] ∧ ∃ now done, finishRun now item.run.id false s = (.ok done, s')) := by
  rcases ends_bind.mp h with ⟨_, staged, -⟩ | ⟨target, s₁, tr₁, tr₂, staged, rest, rfl⟩
  · obtain ⟨cause, failed, -⟩ := ends_stage_error.mp staged
    obtain ⟨e, -, ⟨now, run, rfl⟩ | ⟨rfl, rfl⟩⟩ := ends_store_error.mp failed
    · obtain ⟨-, rfl⟩ := Prod.mk.inj run
      exact ⟨by simp, .inl ⟨rfl, _, List.mem_singleton_self _, by simp⟩⟩
    · exact ⟨by simp, .inl ⟨rfl, _, List.mem_singleton_self _, by simp⟩⟩
  · obtain ⟨now, run, rfl⟩ := ends_store_ok.mp (ends_stage_ok.mp staged)
    obtain ⟨-, rfl⟩ := Prod.mk.inj run
    cases owner : target.owner with
    | some user =>
        rw [owner] at rest
        rcases ends_bind.mp rest with ⟨_, impossible, -⟩ | ⟨_, _, _, _, -, done, -⟩
        · exact absurd impossible not_ends_notify_error
        · cases (ends_pure.mp done).2.1
    | none =>
        rw [owner] at rest
        rcases ends_bind.mp rest with ⟨_, impossible, -⟩ | ⟨reply, s₂, tr₂, tr₃, tried, done, rfl⟩
        · exact absurd impossible not_ends_tryStore_error
        obtain ⟨rfl, -, rfl⟩ := ends_fail.mp done
        rcases ends_tryStore.mp tried with ⟨later, reply', run', eq, rfl⟩ | ⟨e', rfl, eq, rfl⟩
        · cases reply' with
          | ok done => exact ⟨by simp, .inr ⟨rfl, later, done, run'⟩⟩
          | error e' =>
              have same := StoreCall.run_atomic whole (.finishRun item.run.id false) later
                (congrArg Prod.fst run')
              rw [run'] at same
              exact ⟨by simp, .inl ⟨same, _, List.mem_singleton_self _, by simp⟩⟩
        · exact ⟨by simp, .inl ⟨rfl, _, List.mem_singleton_self _, by simp⟩⟩

/-- A run that has **been made to fail** had no status; it has left the queue then. -/
theorem failed_run {id : Id} {now : Timestamp} {done : RunCompletion}
    (h : finishRun now id false s = (.ok done, s')) :
    (∃ r ∈ s'.runs, r.id = id ∧ r.status = some false) ∧
      s'.queue = s.queue.filter fun i => i.run ≠ id := by
  have ended {r : Run} (found : s.run? id = some r) : ∃ q ∈ (s.ending now id false).runs,
      q.id = id ∧ q.status = some false := by
    have same : r.id = id := by simpa using List.find?_some found
    exact ⟨endRun now false r,
      List.mem_map.mpr ⟨r, List.mem_of_find?_eq_some found, if_pos same⟩, same, rfl⟩
  have left : (s.ending now id false).queue = s.queue.filter fun i => i.run ≠ id := by
    simp [ending, dropItems, changeRun, mapRuns]
  rcases finishRun_cases now id false s with
    ⟨-, _, run⟩ | ⟨r, found, -, ⟨-, _, run⟩ | ⟨_, -, -, run⟩ | ⟨_, _, -, -, -, run⟩⟩
  · cases run.symm.trans h
  · cases run.symm.trans h
  · obtain ⟨-, rfl⟩ := Prod.mk.inj (run.symm.trans h)
    exact ⟨ended found, left⟩
  · obtain ⟨-, rfl⟩ := Prod.mk.inj (run.symm.trans h)
    exact ⟨ended found, left⟩

/-- An item is known by its identifier. -/
theorem eq_of_item_id {calls : List DueCall} {i j : StoredItem}
    (known : i ∈ (empty.after calls).queue) (known' : j ∈ (empty.after calls).queue)
    (same : i.id = j.id) : i = j := by
  refine (integrity_empty.after calls).eq_of_position known known' ?_
  rw [item_id known, item_id known'] at same
  injection same with _ same
  omega

namespace StrandsNone

/-- Where no item has been taken and nothing has changed, none is stranded. -/
theorem of_untaken
    (untaken : ∀ queue worker item, Event.store (.dequeue queue worker) (.ok item) ∉ tr) :
    StrandsNone s tr s where
  claimed i known running := ⟨i, known, rfl, running⟩
  taken queue worker item mem := absurd mem (untaken queue worker item)

variable {calls : List DueCall} {i : StoredItem} {r : Run} {t : Task}

/-- An item that has been handed out, with nothing that follows, **is stranded**. -/
theorem not_of_handedOut (oldest : (empty.after calls).Oldest queue i) (now : Timestamp)
    (worker : String) :
    ¬ StrandsNone (empty.after calls) tr ((empty.after calls).handingOut now worker i r t) := by
  intro unstranded
  have taken : claim now worker i ∈ ((empty.after calls).handingOut now worker i r t).queue :=
    List.mem_map.mpr ⟨i, oldest.queued, if_pos rfl⟩
  obtain ⟨j, known, same, running⟩ := unstranded.claimed _ taken rfl
  obtain rfl : j = i := eq_of_item_id known oldest.queued same
  rw [oldest.waits] at running
  cases running

/-- An item that has been handed out and whose run **has been made to fail** is not. -/
theorem of_failed (oldest : (empty.after calls).Oldest queue i)
    (h : (empty.after calls).IsFor i r t) {now later : Timestamp} {done : RunCompletion}
    (fails : finishRun later r.id false ((empty.after calls).handingOut now worker i r t) =
      (.ok done, s'))
    (once : ∀ queue' worker' item, Event.store (.dequeue queue' worker') (.ok item) ∈ tr →
      item = (claim now worker i).withRun (startRun now r)) :
    StrandsNone (empty.after calls) tr s' := by
  have whole := integrity_empty.after calls
  obtain ⟨failed, queue⟩ := failed_run fails
  have others : ∀ j ∈ s'.queue, j ∈ (empty.after calls).queue ∧ j ≠ i := by
    intro j mem
    rw [queue, List.mem_filter] at mem
    obtain ⟨k, known, rfl⟩ := List.mem_map.mp mem.1
    by_cases same : k = i
    · rw [if_pos same] at mem
      simp [claim, h.same] at mem
    · rw [if_neg same]
      exact ⟨known, same⟩
  constructor
  · intro j mem running
    exact ⟨j, (others j mem).1, rfl, running⟩
  · intro queue' worker' item mem
    obtain rfl := once queue' worker' item mem
    refine .inr ⟨fun j mem same => ?_, failed⟩
    obtain ⟨known, other⟩ := others j mem
    exact other (eq_of_item_id known oldest.queued same)

end StrandsNone

/-- An error **strands no item** exactly if no call to the store has failed but the claim itself. -/
theorem next_strandsNone_iff (calls : List DueCall)
    (h : (next queue worker).Ends (empty.after calls) tr (.error e) s') :
    StrandsNone (empty.after calls) tr s' ↔
      ∀ call ∈ tr.failed, ∃ queue worker, call = .dequeue queue worker := by
  have whole := integrity_empty.after calls
  rw [next_eq] at h
  by_cases blank : Text.allBlank worker = true
  · rw [if_pos blank] at h
    obtain ⟨rfl, -, rfl⟩ := ends_fail.mp h
    exact iff_of_true (.of_untaken (by simp)) (by simp [Trace.failed])
  rw [if_neg blank] at h
  rcases ends_bind.mp h with ⟨e', refused, -⟩ | ⟨item, s₁, tr₁, tr₂, claimed, rest, rfl⟩
  · obtain ⟨cause, -, ⟨now, run, rfl⟩ | ⟨rfl, rfl⟩⟩ := ends_store_error.mp refused
    · have same := StoreCall.run_atomic whole _ now (congrArg Prod.fst run)
      rw [run] at same
      obtain rfl : s' = empty.after calls := same
      exact iff_of_true (.of_untaken (by simp)) fun call mem => ⟨_, _, List.mem_singleton.mp mem⟩
    · exact iff_of_true (.of_untaken (by simp)) fun call mem => ⟨_, _, List.mem_singleton.mp mem⟩
  · obtain ⟨now, run, rfl⟩ := ends_store_ok.mp claimed
    obtain ⟨i, r, t, oldest, own⟩ : ∃ i r t,
        (empty.after calls).Oldest (Queue.nameOrDefault queue) i ∧
          (empty.after calls).IsFor i r t := by
      by_contra missing
      have idle : ∀ i ∈ (empty.after calls).queue, i.queue = Queue.nameOrDefault queue →
          i.running = true := by
        intro i known own
        by_contra waits
        exact missing (whole.exists_oldest known own (by simpa using waits))
      obtain ⟨subject, refused⟩ := dequeue_idle idle now worker
      cases run.symm.trans refused
    obtain ⟨eq, rfl⟩ := Prod.mk.inj (run.symm.trans (whole.dequeue_oldest oldest own now worker))
    obtain rfl := Except.ok.inj eq
    obtain ⟨untaken, ⟨rfl, call, mem, other⟩ | ⟨silent, later, done, fails⟩⟩ :=
      resolve_error (whole.handingOut oldest.queued own now worker) rest
    · refine iff_of_false (StrandsNone.not_of_handedOut oldest now worker) fun only => ?_
      obtain ⟨queue', worker', eq⟩ := only call mem
      exact other queue' worker' eq
    · refine iff_of_true (.of_failed oldest own fails ?_) ?_
      · intro queue' worker' item mem
        rcases List.mem_append.mp mem with first | later
        · cases List.mem_singleton.mp first
          rfl
        · exact absurd later (untaken queue' worker' item)
      · intro call mem
        have mem' : call ∈ tr₂.failed := mem
        rw [silent] at mem'
        cases mem'

/-- If the claim itself fails, no item is stranded. -/
theorem next_strandsNone_sample : ∃ (tr : Trace) (e : OperationError),
    (next "" "worker").Ends (empty.after (Sample.waiting (some (.issued .user 1)))) tr (.error e)
      (empty.after (Sample.waiting (some (.issued .user 1)))) ∧
    tr.failed = [.dequeue "default" "worker"] ∧
    StrandsNone (empty.after (Sample.waiting (some (.issued .user 1)))) tr
      (empty.after (Sample.waiting (some (.issued .user 1)))) := by
  have named : ¬ Text.allBlank "worker" = true := by decide +kernel
  have ends : (next "" "worker").Ends (empty.after (Sample.waiting (some (.issued .user 1))))
      [.fault (.dequeue "default" "worker") .missingRow] (.error (StoreError.missingRow))
      (empty.after (Sample.waiting (some (.issued .user 1)))) := by
    rw [next_eq, if_neg named]
    exact ends_bind.mpr (.inl ⟨_, ends_store_error.mpr ⟨_, rfl, .inr ⟨rfl, rfl⟩⟩, rfl⟩)
  refine ⟨_, _, ends, rfl, (next_strandsNone_iff _ ends).mpr fun call mem => ?_⟩
  exact ⟨_, _, List.mem_singleton.mp mem⟩

end Worker

namespace Sample

/-- A session in which a run waits, of a repository with or without an owner, and in which such a
call to the store is to fail once. -/
def waitingSession (owner : Option Id) (call : String) : Session :=
  { session with
    store := .after .empty (waiting owner)
    faults := [⟨call, none, 0, some 1, .missingRow⟩] }

/-- Asking for work in such a session **leaves an item claimed**. -/
theorem waitingSession_ends (owner : Option Id) (call : String)
    (h : Session.fails (Worker.next "" "worker") (waitingSession owner call)
      (fun _ σ => σ.store.queue.map (·.running) = [true]) = true)
    (idle : (Store.empty.after (waiting owner)).queue.map (·.running) = [false]) :
    ∃ (tr : Trace) (e : OperationError) (s' : Store),
      (Worker.next "" "worker").Ends (.after .empty (waiting owner)) tr (.error e) s' ∧
        tr.faults.length ≤ 1 ∧ ¬ Worker.StrandsNone (.after .empty (waiting owner)) tr s' := by
  obtain ⟨e, σ, failed, meets⟩ := Session.exists_of_fails _ _ _ h
  obtain ⟨tr, ends, once⟩ := Session.perform_limited failed (n := 1) rfl
  have start : (waitingSession owner call).store = .after .empty (waiting owner) := by
    rw [waitingSession]
  rw [start] at ends
  refine ⟨tr, e, σ.store, ends, once, fun unstranded => ?_⟩
  have running : σ.store.queue.map (·.running) = [true] := of_decide_eq_true meets
  obtain ⟨i, known, claimed⟩ := List.mem_map.mp (running ▸ List.mem_singleton_self true)
  obtain ⟨j, known', -, claimed'⟩ := unstranded.claimed i known claimed
  have mem := List.mem_map_of_mem (f := (·.running)) known'
  rw [idle, claimed'] at mem
  cases List.mem_singleton.mp mem

end Sample

namespace Worker

/-- An error **can strand an item**: when the target of its run cannot be looked up once, and, where
there is no owner, when its run cannot be made to fail once. -/
theorem next_strands :
    (∃ (tr : Trace) (e : OperationError) (s' : Store),
      (next "" "worker").Ends (Store.empty.after (Sample.waiting (some (.issued .user 1)))) tr
        (.error e) s' ∧ tr.faults.length ≤ 1 ∧
        ¬ StrandsNone (Store.empty.after (Sample.waiting (some (.issued .user 1)))) tr s') ∧
    ∃ (tr : Trace) (e : OperationError) (s' : Store),
      (next "" "worker").Ends (Store.empty.after (Sample.waiting none)) tr (.error e) s' ∧
        tr.faults.length ≤ 1 ∧ ¬ StrandsNone (Store.empty.after (Sample.waiting none)) tr s' :=
  ⟨Sample.waitingSession_ends _ "tasks.target" (by decide +kernel) (by decide +kernel),
    Sample.waitingSession_ends _ "runs.finish" (by decide +kernel) (by decide +kernel)⟩

end Worker

end Dispatch
