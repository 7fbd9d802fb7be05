import Dispatch.Proofs.Store.Service

/-!
# Claims from the queue

Workers claim the items of each queue at most once and in the order in which they were put on it,
whoever else uses the store meanwhile, other queues and the ending of runs included.

The order is kept by one fact about a single call (`Store.Handles.inOrder`): what it hands out from
a queue, followed by what waits there afterwards, is in order within what waited there before,
followed by what it puts on the queue. Along a sequence of calls these facts join end to end.

## Main definitions

* `QueueEntry`: what never changes of a queue item.
* `Answered.entered`, `Answered.claimed`: what an answer reports as put on the queue, and as claimed
  from a queue.
* `Store.Handles`: what one call does to the queue, and how it is answered.
* `Store.ServesInOrder`: how a queue is served to its workers.

## Main results

* `Store.Integrity.claims_inOrder`: along a sequence of calls the claims are in the order of the
  items.
* `Store.claim_final`: an item that has been claimed stays as it is as long as it is there.
* `Store.running_iff`: the items marked as claimed are those that have been handed out.
* `Store.serves_inOrder`: every queue is served in order after any calls.
-/

namespace Dispatch

/-- What **never changes** of a queue item. -/
structure QueueEntry where
  id : Id
  run : Id
  queue : String
deriving DecidableEq

/-- The entry of a stored item. -/
def StoredItem.entry (i : StoredItem) : QueueEntry := ⟨i.id, i.run, i.queue⟩

/-- The entry of an item as it is shown. -/
def QueueItem.entry (x : QueueItem) : QueueEntry := ⟨x.id, x.run.id, x.queue⟩

/-- A call that is not about the queue. -/
def StoreCall.LeavesQueue : StoreCall → Prop
  | enqueue _ | dequeue _ _ => False
  | _ => True

namespace Answered

/-- The entries that an answer reports as **put on the queue**, in their order. -/
def entered : Answered → List QueueEntry
  | ⟨.enqueue _, .ok items⟩ => items.map (·.entry)
  | _ => []

/-- The entry that an answer reports as **claimed from a queue**. -/
def claimed (queue : String) : Answered → List QueueEntry
  | ⟨.dequeue source _, .ok item⟩ => if source = queue then [item.entry] else []
  | _ => []

/-- An answer that reports no item as put on the queue and none as claimed. -/
structure IsQuiet (answer : Answered) : Prop where
  entered : answer.entered = []
  claimed : ∀ queue, answer.claimed queue = []

end Answered

theorem StoreCall.LeavesQueue.isQuiet {call : StoreCall} (h : call.LeavesQueue)
    (reply : Except StoreError call.Reply) : (⟨call, reply⟩ : Answered).IsQuiet := by
  cases call <;> first | exact h.elim | exact ⟨rfl, fun _ => rfl⟩

namespace Store

/-- The items that **wait** on a queue, the first one first. -/
def waitingOn (s : Store) (queue : String) : List StoredItem :=
  s.queue.filter fun i => i.queue = queue && !i.running

theorem mem_waitingOn {s : Store} {queue : String} {i : StoredItem} :
    i ∈ s.waitingOn queue ↔ i ∈ s.queue ∧ i.queue = queue ∧ i.running = false := by
  simp [waitingOn]

/-- The item to be claimed next is the first that waits. -/
theorem waiting?_eq_head? (s : Store) (queue : String) :
    s.waiting? queue = (s.waitingOn queue).head? := by
  rw [waiting?, waitingOn, List.head?_filter]

theorem mem_of_waiting?_eq_some {s : Store} {queue : String} {i : StoredItem}
    (h : s.waiting? queue = some i) : i ∈ s.waitingOn queue := by
  rw [waiting?_eq_head?] at h
  exact List.mem_of_mem_head? h

/-! ### What one call does to the queue -/

/-- What **one call** does to the queue, and how it is answered: it leaves the items there or
removes some, it puts a batch on the queue, or it claims the first item that waits. -/
inductive Handles (s : Store) : Answered → Store → Prop
  | leaves {answer : Answered} {s' : Store} (quiet : answer.IsQuiet)
      (keep : StoredItem → Bool) (queue : s'.queue = s.queue.filter keep)
      (next : s'.nextPosition = s.nextPosition) : Handles s answer s'
  | queues (batch : List NewQueueItem) (shown : List QueueItem)
      (shows : s.Shows (newItems s.nextPosition batch) shown) :
      Handles s ⟨.enqueue batch, .ok shown⟩ (s.queueing batch)
  | claims (now : Timestamp) (queue worker : String) (i : StoredItem) (r started : Run)
      (waiting : s.waiting? queue = some i) (run : started.id = i.run) :
      Handles s ⟨.dequeue queue worker, .ok ((claim now worker i).withRun started)⟩
        (s.claiming now worker i r)

/-- A call that leaves the queue as it is. -/
theorem Handles.stay {s s' : Store} {answer : Answered} (quiet : answer.IsQuiet)
    (queue : s'.queue = s.queue) (next : s'.nextPosition = s.nextPosition) :
    s.Handles answer s' :=
  .leaves quiet (fun _ => true) (by rw [queue, List.filter_true]) next

theorem handles_enqueue (s : Store) (now : Timestamp) (batch : List NewQueueItem) :
    s.Handles ⟨.enqueue batch, ((StoreCall.enqueue batch).run now s).1⟩
      ((StoreCall.enqueue batch).run now s).2 := by
  rcases enqueue_cases batch s with ⟨-, e, run⟩ | ⟨-, shown, run, shows⟩
  · rw [StoreCall.run, run]
    exact .stay ⟨rfl, fun _ => rfl⟩ rfl rfl
  · rw [StoreCall.run, run]
    exact .queues batch shown shows

/-- Where an item waits, a claim **hands it out** with its run, which has started. -/
theorem Integrity.dequeue_waiting {s : Store} (h : s.Integrity) {queue : String} {i : StoredItem}
    (waiting : s.waiting? queue = some i) {r : Run} (known : r ∈ s.runs) (same : r.id = i.run)
    (now : Timestamp) (worker : String) : dequeue now queue worker s =
      (.ok ((claim now worker i).withRun (startRun now r)), s.claiming now worker i r) := by
  have found : s.run? i.run = some r := h.run?_eq_some.mpr ⟨known, same⟩
  rcases dequeue_cases now queue worker s with
    ⟨nothingWaits, -⟩ | ⟨j, waiting', ⟨missing, -⟩ | ⟨q, found', run⟩⟩
  · cases nothingWaits.symm.trans waiting
  · obtain rfl : j = i := Option.some.inj (waiting'.symm.trans waiting)
    cases missing.symm.trans found
  · obtain rfl : j = i := Option.some.inj (waiting'.symm.trans waiting)
    obtain rfl : q = r := Option.some.inj (found'.symm.trans found)
    have started : (s.claiming now worker j q).run? j.run = some (startRun now q) := by
      have kept : (s.claiming now worker j q).Integrity := by
        rw [claiming_eq]
        exact h.revise (revises_claiming now worker q.task q.id j.position)
      exact kept.run?_eq_some.mpr ⟨List.mem_map.mpr ⟨q, known, if_pos rfl⟩, same⟩
    rw [run, queueItem_eq_ok (i := claim now worker j).mpr ⟨_, started, rfl⟩]

/-- A claim is refused if nothing waits on the queue, and else the first waiting item is handed
out. -/
theorem Integrity.dequeue_ends {s : Store} (h : s.Integrity) (now : Timestamp)
    (queue worker : String) :
    (s.waitingOn queue = [] ∧ ∃ subject,
      dequeue now queue worker s = (.error (.notFound subject), s)) ∨
    ∃ i r started, s.waiting? queue = some i ∧ started.id = i.run ∧
      dequeue now queue worker s =
        (.ok ((claim now worker i).withRun started), s.claiming now worker i r) := by
  cases waiting : s.waiting? queue with
  | none =>
      rcases dequeue_cases now queue worker s with ⟨nothingWaits, subject, run⟩ | ⟨i, waiting', -⟩
      · rw [waiting?_eq_head?, List.head?_eq_none_iff] at nothingWaits
        exact .inl ⟨nothingWaits, subject, run⟩
      · cases waiting.symm.trans waiting'
  | some i =>
      obtain ⟨r, known, same⟩ := h.exists_run (List.mem_of_find?_eq_some waiting)
      exact .inr ⟨i, r, startRun now r, rfl, same, h.dequeue_waiting waiting known same now worker⟩

theorem handles_dequeue {s : Store} (h : s.Integrity) (now : Timestamp) (queue worker : String) :
    s.Handles ⟨.dequeue queue worker, ((StoreCall.dequeue queue worker).run now s).1⟩
      ((StoreCall.dequeue queue worker).run now s).2 := by
  rcases h.dequeue_ends now queue worker with ⟨-, _, run⟩ | ⟨i, r, started, waiting, same, run⟩
  · rw [StoreCall.run, run]
    exact .stay ⟨rfl, fun _ => rfl⟩ rfl rfl
  · rw [StoreCall.run, run]
    exact .claims now queue worker i r started waiting same

/-- A call that is not about the queue leaves the items there or removes some. -/
theorem filters {call : StoreCall} (other : call.LeavesQueue) (now : Timestamp) (s : Store) :
    ∃ keep, (call.run now s).2.queue = s.queue.filter keep ∧
      (call.run now s).2.nextPosition = s.nextPosition := by
  have dropped : ∀ {reply : Except StoreError call.Reply} {s' : Store} (keep : StoredItem → Bool),
      call.run now s = (reply, s') → s'.queue = s.queue.filter keep →
      s'.nextPosition = s.nextPosition → ∃ keep, (call.run now s).2.queue = s.queue.filter keep ∧
        (call.run now s).2.nextPosition = s.nextPosition := by
    intro reply s' keep run queue next
    rw [run]
    exact ⟨keep, queue, next⟩
  have all : ∀ {reply : Except StoreError call.Reply} {s' : Store},
      call.run now s = (reply, s') → s'.queue = s.queue →
      s'.nextPosition = s.nextPosition → ∃ keep, (call.run now s).2.queue = s.queue.filter keep ∧
        (call.run now s).2.nextPosition = s.nextPosition := by
    intro reply s' run queue next
    exact dropped (fun _ => true) run (by rw [queue, List.filter_true]) next
  by_cases aside : call.LeavesWork
  · obtain ⟨-, -, queue, next⟩ := aside.run_eq now s
    exact all rfl queue next
  cases call with
  | createTask new =>
      rcases createTask_cases now new s with ⟨-, e, run⟩ | ⟨-, run⟩
      exacts [all run rfl rfl, all run rfl rfl]
  | createRun new =>
      rcases createRun_cases now new s with ⟨-, e, run⟩ | ⟨-, run⟩
      exacts [all run rfl rfl, all run rfl rfl]
  | cancelTask task =>
      rcases cancelTask_cases now task s with ⟨-, _, run⟩ | ⟨_, -, -, _, run⟩ | ⟨t, -, -, run⟩
      exacts [all run rfl rfl, all run rfl rfl, dropped _ run rfl rfl]
  | finishRun id status =>
      rcases finishRun_cases now id status s with
        ⟨-, e, run⟩ | ⟨r, -, -, ⟨-, e, run⟩ | ⟨t, -, -, run⟩ | ⟨t, result, -, -, -, run⟩⟩
      exacts [all run rfl rfl, dropped _ run rfl rfl, dropped _ run rfl rfl, dropped _ run rfl rfl]
  | enqueue batch => exact other.elim
  | dequeue queue worker => exact other.elim
  | _ => exact absurd trivial aside

/-- What **every call** does to the queue of a store with integrity. -/
theorem Integrity.handles {s : Store} (h : s.Integrity) (call : StoreCall) (now : Timestamp) :
    s.Handles ⟨call, (call.run now s).1⟩ (call.run now s).2 := by
  by_cases other : call.LeavesQueue
  · obtain ⟨keep, queue, next⟩ := filters other now s
    exact .leaves (other.isQuiet _) keep queue next
  · cases call with
    | enqueue batch => exact handles_enqueue s now batch
    | dequeue queue worker => exact handles_dequeue h now queue worker
    | _ => exact absurd trivial other

/-! ### The order of the claims -/

section Waiting

variable {s s' : Store}

/-- After a claim, all others of the waiting items wait. -/
theorem waitingOn_claiming (now : Timestamp) (worker : String) (i : StoredItem) (r : Run)
    (queue : String) : (s.claiming now worker i r).waitingOn queue =
      (s.waitingOn queue).filter fun j => j.position ≠ i.position := by
  have items : (s.claiming now worker i r).queue =
      s.queue.map fun j => if j.position = i.position then claim now worker j else j := rfl
  rw [waitingOn, waitingOn, items, List.filter_filter]
  induction s.queue with
  | nil => rfl
  | cons j rest ih =>
      rw [List.map_cons, List.filter_cons, List.filter_cons, ih]
      by_cases claimed : j.position = i.position
      · simp [claimed, claim]
      · simp [claimed]

/-- What waits on a queue once items have been removed was waiting before. -/
theorem waitingOn_filter {keep : StoredItem → Bool} (kept : s'.queue = s.queue.filter keep)
    (queue : String) : (s'.waitingOn queue).Sublist (s.waitingOn queue) := by
  rw [waitingOn, waitingOn, kept]
  exact List.filter_sublist.filter _

/-- A batch waits behind all others. -/
theorem waitingOn_queueing (batch : List NewQueueItem) (queue : String) :
    (s.queueing batch).waitingOn queue = s.waitingOn queue ++
      (newItems s.nextPosition batch).filter fun i => i.queue = queue := by
  have fresh : (newItems s.nextPosition batch).filter (fun i => i.queue = queue && !i.running) =
      (newItems s.nextPosition batch).filter fun i => i.queue = queue := by
    refine List.filter_congr fun i mem => ?_
    obtain ⟨new, -, eq, -, -⟩ := mem_newItems mem
    rw [eq]
    simp [waitingItem]
  rw [waitingOn, queueing, List.filter_append, fresh, waitingOn]

/-- What a batch is shown as has the entries of its items. -/
theorem Shows.entries {l : List StoredItem} {shown : List QueueItem} (h : s.Shows l shown) :
    shown.map (·.entry) = l.map (·.entry) := by
  induction h with
  | nil => rfl
  | @cons i x l shown shows _ ih =>
      obtain ⟨run, found, rfl⟩ := shows
      have same : run.id = i.run := by simpa using List.find?_some found
      rw [List.map_cons, List.map_cons, ih, QueueItem.entry, StoredItem.entry]
      simp [StoredItem.withRun, same]

variable {i : StoredItem} {queue : String}

/-- A claimed item is handed out with its entry. -/
theorem claim_entry (now : Timestamp) (worker : String) {started : Run} (run : started.id = i.run) :
    ((claim now worker i).withRun started).entry = i.entry := by
  simp [QueueItem.entry, StoredItem.entry, StoredItem.withRun, claim, run]

/-- The item that is claimed was the first to wait, and those behind it go on waiting. -/
theorem Integrity.waitingOn_claimed (h : s.Integrity) (waiting : s.waiting? queue = some i)
    (now : Timestamp) (worker : String) (r : Run) :
    s.waitingOn queue = i :: (s.claiming now worker i r).waitingOn queue := by
  rw [waiting?_eq_head?, List.head?_eq_some_iff] at waiting
  obtain ⟨rest, eq⟩ := waiting
  have ascending : (s.waitingOn queue).Pairwise fun a b => a.position < b.position :=
    (List.pairwise_map.mp h.positions).sublist List.filter_sublist
  rw [eq] at ascending
  have behind : ∀ j ∈ rest, i.position < j.position := (List.pairwise_cons.mp ascending).1
  have kept : rest.filter (fun j => j.position ≠ i.position) = rest := by
    refine List.filter_eq_self.mpr fun j mem => ?_
    have := behind j mem
    simp only [decide_eq_true_eq]
    omega
  rw [waitingOn_claiming, eq, List.filter_cons_of_neg (by simp), kept]

/-- A claim leaves what waits on other queues. -/
theorem Integrity.waitingOn_others (h : s.Integrity) (waiting : s.waiting? queue = some i)
    {queue' : String} (other : queue ≠ queue') (now : Timestamp) (worker : String) (r : Run) :
    (s.claiming now worker i r).waitingOn queue' = s.waitingOn queue' := by
  obtain ⟨known, own, -⟩ := mem_waitingOn.mp (mem_of_waiting?_eq_some waiting)
  rw [waitingOn_claiming, List.filter_eq_self]
  intro j mem
  obtain ⟨known', own', -⟩ := mem_waitingOn.mp mem
  have apart : j.position ≠ i.position := by
    intro same
    obtain rfl : j = i := h.eq_of_position known' known same
    exact other (own.symm.trans own')
  simpa using apart

end Waiting

variable {s s' : Store} {answer : Answered}

/-- The **order of one call**: what it hands out from a queue, and then what waits there
afterwards, is in order within what waited there before and then what it puts there. -/
theorem Handles.inOrder (handles : s.Handles answer s') (h : s.Integrity) (queue : String) :
    (answer.claimed queue ++ (s'.waitingOn queue).map (·.entry)).Sublist
      ((s.waitingOn queue).map (·.entry) ++ answer.entered.filter (·.queue = queue)) := by
  cases handles with
  | leaves quiet keep kept next =>
      rw [quiet.entered, quiet.claimed, List.nil_append, List.filter_nil, List.append_nil]
      exact (waitingOn_filter kept queue).map _
  | queues batch shown shows =>
      have entries : (shown.map (·.entry)).filter (·.queue = queue) =
          ((newItems s.nextPosition batch).filter fun i => i.queue = queue).map (·.entry) := by
        rw [shows.entries, List.filter_map]
        rfl
      rw [waitingOn_queueing, List.map_append, ← entries]
      exact List.Sublist.refl _
  | claims now source worker i r started waiting run =>
      have entry := claim_entry now worker run
      by_cases own : source = queue
      · subst own
        rw [h.waitingOn_claimed waiting now worker r, Answered.claimed, if_pos rfl, entry]
        exact List.sublist_append_left _ _
      · rw [h.waitingOn_others waiting own, Answered.claimed, if_neg own]
        exact List.sublist_append_left _ _

/-- The entries that answers report as **put on the queue**. -/
def entered (answers : List Answered) : List QueueEntry := answers.flatMap (·.entered)

/-- The entries that answers report as **claimed** from a queue. -/
def claimed (queue : String) (answers : List Answered) : List QueueEntry :=
  answers.flatMap (·.claimed queue)

/-- **Along a sequence of calls**, what is claimed from a queue, and then what waits there in the
end, is in order within what waited there before and then what is put there. -/
theorem Integrity.claims_inOrder (h : s.Integrity) (calls : List DueCall) (queue : String) :
    (claimed queue (s.answers calls) ++ ((s.after calls).waitingOn queue).map (·.entry)).Sublist
      ((s.waitingOn queue).map (·.entry) ++
        (entered (s.answers calls)).filter (·.queue = queue)) := by
  induction calls generalizing s with
  | nil => simp [claimed, entered]
  | cons due rest ih =>
      have first := (h.handles due.call due.now).inOrder h queue
      have later := ih (due.call.run_integrity h due.now)
      simp only [claimed, entered, answers_cons, after_cons, List.flatMap_cons,
        List.filter_append, List.append_assoc] at later ⊢
      refine (later.append_left _).trans ?_
      rw [← List.append_assoc, ← List.append_assoc]
      exact first.append_right _

/-! ### The identifiers of the items -/

/-- The identifiers of the items at so many positions from one on. -/
def itemIds (position count : Nat) : List Id :=
  (List.range' position count).map fun p => .issued .queueItem (p + 1)

theorem itemIds_nodup (position count : Nat) : (itemIds position count).Nodup := by
  refine List.Nodup.map ?_ List.nodup_range'
  intro p q same
  injection same with _ same
  omega

theorem itemIds_append (position first second : Nat) :
    itemIds position first ++ itemIds (position + first) second =
      itemIds position (first + second) := by
  rw [itemIds, itemIds, itemIds, ← List.map_append, List.range'_append_1]

theorem newItems_map_id (position : Nat) (batch : List NewQueueItem) :
    (newItems position batch).map (·.id) = itemIds position batch.length := by
  induction batch generalizing position with
  | nil => rfl
  | cons new rest ih => rw [newItems, List.map_cons, ih]; rfl

/-- The items of one call take the next positions. -/
theorem Handles.entered_ids (handles : s.Handles answer s') :
    answer.entered.map (·.id) = itemIds s.nextPosition answer.entered.length ∧
      s'.nextPosition = s.nextPosition + answer.entered.length := by
  cases handles with
  | leaves quiet keep kept next =>
      rw [quiet.entered]
      exact ⟨rfl, next⟩
  | queues batch shown shows =>
      have entries := shows.entries
      have ids : (shown.map (·.entry)).map (·.id) = itemIds s.nextPosition batch.length := by
        rw [entries, List.map_map, ← newItems_map_id]
        rfl
      have length : (shown.map (·.entry)).length = batch.length := by
        simpa [itemIds] using congrArg List.length ids
      rw [Answered.entered, length]
      exact ⟨ids, rfl⟩
  | claims now source worker i r started waiting run => exact ⟨rfl, rfl⟩

/-- Along a sequence of calls no two items get the same identifier. -/
theorem Integrity.entered_ids (h : s.Integrity) (calls : List DueCall) :
    (entered (s.answers calls)).map (·.id) =
      itemIds s.nextPosition (entered (s.answers calls)).length := by
  induction calls generalizing s with
  | nil => rfl
  | cons due rest ih =>
      obtain ⟨first, next⟩ := (h.handles due.call due.now).entered_ids
      have later := ih (due.call.run_integrity h due.now)
      rw [next] at later
      simp only [entered, answers_cons, List.flatMap_cons, List.map_append,
        List.length_append] at later ⊢
      rw [first, later, itemIds_append]

/-- What is claimed along a sequence of calls is claimed once. -/
theorem claimed_nodup (calls : List DueCall) (queue : String) :
    ((claimed queue (empty.answers calls) ++
      ((empty.after calls).waitingOn queue).map (·.entry)).map (·.id)).Nodup := by
  have ordered := integrity_empty.claims_inOrder calls queue
  have distinct : ((entered (empty.answers calls)).map (·.id)).Nodup := by
    rw [integrity_empty.entered_ids calls]
    exact itemIds_nodup _ _
  refine distinct.sublist ?_
  exact (ordered.trans List.filter_sublist).map _

/-! ### Items that have been claimed -/

/-- The items of a **later** store: new ones at new positions, and some that were there before, of
which those that were claimed are as they were. -/
structure KeepsClaims (s s' : Store) : Prop where
  next : s.nextPosition ≤ s'.nextPosition
  item : ∀ j ∈ s'.queue,
    (∃ i ∈ s.queue, i.id = j.id ∧ i.position = j.position ∧ (i.running = true → j = i)) ∨
      s.nextPosition ≤ j.position ∧ j.id = .issued .queueItem (j.position + 1)

namespace KeepsClaims

theorem refl (s : Store) : s.KeepsClaims s where
  next := Nat.le_refl _
  item j mem := .inl ⟨j, mem, rfl, rfl, fun _ => rfl⟩

theorem trans {s₁ s₂ s₃ : Store} (first : s₁.KeepsClaims s₂) (second : s₂.KeepsClaims s₃) :
    s₁.KeepsClaims s₃ where
  next := Nat.le_trans first.next second.next
  item j mem := by
    rcases second.item j mem with ⟨k, known, id, position, kept⟩ | ⟨later, id⟩
    · rcases first.item k known with ⟨i, known', id', position', kept'⟩ | ⟨later, id'⟩
      · refine .inl ⟨i, known', id'.trans id, position'.trans position, fun running => ?_⟩
        obtain rfl : k = i := kept' running
        exact kept running
      · exact .inr ⟨by omega, by rw [← id, id', position]⟩
    · exact .inr ⟨Nat.le_trans first.next later, id⟩

end KeepsClaims

/-- One call keeps the claims. -/
theorem Handles.keepsClaims (handles : s.Handles answer s') (h : s.Integrity) :
    s.KeepsClaims s' := by
  cases handles with
  | leaves quiet keep kept next =>
      refine ⟨Nat.le_of_eq next.symm, fun j mem => .inl ⟨j, ?_, rfl, rfl, fun _ => rfl⟩⟩
      rw [kept] at mem
      exact List.mem_of_mem_filter mem
  | queues batch shown shows =>
      refine ⟨Nat.le_add_right _ _, fun j mem => ?_⟩
      rcases List.mem_append.mp mem with old | new
      · exact .inl ⟨j, old, rfl, rfl, fun _ => rfl⟩
      · obtain ⟨new, -, eq, least, -⟩ := mem_newItems new
        exact .inr ⟨least, by rw [eq]; rfl⟩
  | claims now source worker i r started waiting run =>
      obtain ⟨queued, -, idle⟩ := mem_waitingOn.mp (mem_of_waiting?_eq_some waiting)
      refine ⟨Nat.le_refl _, fun j mem => .inl ?_⟩
      obtain ⟨k, known, rfl⟩ := List.mem_map.mp mem
      by_cases own : k.position = i.position
      · obtain rfl : k = i := h.eq_of_position known queued own
        rw [if_pos rfl]
        refine ⟨k, known, rfl, rfl, fun running => ?_⟩
        rw [idle] at running
        cases running
      · rw [if_neg own]
        exact ⟨k, known, rfl, rfl, fun _ => rfl⟩

theorem Integrity.keepsClaims (h : s.Integrity) (calls : List DueCall) :
    s.KeepsClaims (s.after calls) :=
  h.after_within .refl (fun _ _ _ => .trans)
    (fun _ whole call now => (whole.handles call now).keepsClaims whole) calls

/-- Every item is numbered by its position. -/
theorem item_id {calls : List DueCall} {i : StoredItem} (known : i ∈ (empty.after calls).queue) :
    i.id = .issued .queueItem (i.position + 1) := by
  rcases (integrity_empty.keepsClaims calls).item i known with ⟨j, absent, -⟩ | ⟨-, id⟩
  · cases absent
  · exact id

/-- An item that **has been claimed** stays as it is as long as it is there. -/
theorem claim_final {calls more : List DueCall} {i j : StoredItem}
    (known : i ∈ (empty.after calls).queue) (running : i.running = true)
    (known' : j ∈ ((empty.after calls).after more).queue) (same : j.id = i.id) : j = i := by
  have whole := integrity_empty.after calls
  rcases (whole.keepsClaims more).item j known' with ⟨k, old, id, -, kept⟩ | ⟨later, id⟩
  · have ids : k.position = i.position := by
      have eq := id.trans same
      rw [item_id old, item_id known] at eq
      injection eq with _ eq
      omega
    obtain rfl : k = i := whole.eq_of_position old known ids
    exact kept running
  · have before := whole.nextPosition i known
    rw [id, item_id known] at same
    injection same with _ same
    omega

/-- An item is marked as claimed by the answer that hands it out. -/
theorem Handles.running_cases (handles : s.Handles answer s') (h : s.Integrity) {j : StoredItem}
    (known : j ∈ s'.queue) (running : j.running = true) :
    j ∈ s.queue ∨ j.entry ∈ answer.claimed j.queue := by
  cases handles with
  | leaves quiet keep kept next =>
      rw [kept] at known
      exact .inl (List.mem_of_mem_filter known)
  | queues batch shown shows =>
      rcases List.mem_append.mp known with old | new
      · exact .inl old
      · obtain ⟨new, -, eq, -, -⟩ := mem_newItems new
        rw [eq] at running
        cases running
  | claims now source worker i r started waiting run =>
      obtain ⟨queued, on, -⟩ := mem_waitingOn.mp (mem_of_waiting?_eq_some waiting)
      obtain ⟨k, old, rfl⟩ := List.mem_map.mp known
      by_cases own : k.position = i.position
      · obtain rfl : k = i := h.eq_of_position old queued own
        rw [if_pos rfl]
        refine .inr ?_
        rw [Answered.claimed, claim_entry now worker run]
        simp [claim, StoredItem.entry, on]
      · rw [if_neg own]
        exact .inl old

/-- What is marked as claimed in the end was so before, or has been handed out. -/
theorem Integrity.running_cases (h : s.Integrity) {calls : List DueCall} {i : StoredItem}
    (known : i ∈ (s.after calls).queue) (running : i.running = true) :
    i ∈ s.queue ∨ i.entry ∈ claimed i.queue (s.answers calls) := by
  induction calls generalizing s with
  | nil => exact .inl known
  | cons due rest ih =>
      rw [answers_cons, claimed, List.flatMap_cons, ← claimed, List.mem_append]
      rcases ih (due.call.run_integrity h due.now) known with old | later
      · rcases (h.handles due.call due.now).running_cases h old running with older | now
        · exact .inl older
        · exact .inr (.inl now)
      · exact .inr (.inr later)

/-- An item on the queue is **marked as claimed** exactly if it has been handed out. -/
theorem running_iff {calls : List DueCall} {i : StoredItem}
    (known : i ∈ (empty.after calls).queue) :
    i.running = true ↔ i.entry ∈ claimed i.queue (empty.answers calls) := by
  constructor
  · intro running
    rcases integrity_empty.running_cases known running with absent | handedOut
    · cases absent
    · exact handedOut
  · intro handedOut
    by_contra idle
    have waits : i ∈ (empty.after calls).waitingOn i.queue :=
      mem_waitingOn.mpr ⟨known, rfl, by simpa using idle⟩
    have distinct := claimed_nodup calls i.queue
    rw [List.map_append] at distinct
    have apart := (List.nodup_append'.mp distinct).2.2
    refine apart (List.mem_map_of_mem handedOut) ?_
    exact List.mem_map_of_mem (List.mem_map_of_mem waits)

/-! ### Claims one after the other -/

/-- Calls of workers for one queue, each at its time and under its name. -/
def claimsOn (queue : String) (workers : List (Timestamp × String)) : List DueCall :=
  workers.map fun w => ⟨w.1, .dequeue queue w.2⟩

/-- Workers that claim **one after the other** get the items that wait, the first ones first, until
none is left. -/
theorem Integrity.claimed_claimsOn (h : s.Integrity) (queue : String)
    (workers : List (Timestamp × String)) :
    claimed queue (s.answers (claimsOn queue workers)) =
      ((s.waitingOn queue).take workers.length).map (·.entry) := by
  induction workers generalizing s with
  | nil => rfl
  | cons w rest ih =>
      have later := ih ((StoreCall.dequeue queue w.2).run_integrity h w.1)
      rw [claimsOn, List.map_cons, answers_cons, claimed, List.flatMap_cons, ← claimed,
        ← claimsOn, later]
      rcases h.dequeue_ends w.1 queue w.2 with
        ⟨nothingWaits, subject, run⟩ | ⟨i, r, started, waiting, same, run⟩
      · rw [StoreCall.run, run, nothingWaits, List.take_nil, List.take_nil]
        rfl
      · have first := h.waitingOn_claimed waiting w.1 w.2 r
        rw [StoreCall.run, run, first, Answered.claimed, if_pos rfl, claim_entry w.1 w.2 same,
          List.length_cons, List.take_succ_cons, List.map_cons]
        rfl

/-! ### Service -/

/-- A queue is **served in order** after calls to a store that began without records. -/
structure ServesInOrder (calls : List DueCall) (queue : String) : Prop where
  /-- A batch is put on the queue as it is given. -/
  batches : ∀ batch items, (⟨.enqueue batch, .ok items⟩ : Answered) ∈ empty.answers calls →
    items.map (fun x => (⟨x.run.id, x.queue⟩ : NewQueueItem)) = batch
  /-- Every item that is put on the queue is a new one. -/
  fresh : ((entered (empty.answers calls)).map (·.id)).Nodup
  /-- No item is claimed twice. -/
  once : ((claimed queue (empty.answers calls)).map (·.id)).Nodup
  /-- Items are claimed in the order in which they were put on the queue. -/
  inOrder : (claimed queue (empty.answers calls)).Sublist
    ((entered (empty.answers calls)).filter (·.queue = queue))
  /-- What is marked as claimed has been handed out, and what has been handed out is marked. -/
  marked : ∀ i ∈ (empty.after calls).queue, i.queue = queue →
    (i.running = true ↔ i.entry ∈ claimed queue (empty.answers calls))
  /-- A claim succeeds exactly if an item of the queue is unclaimed, -/
  available : ∀ now worker, (∃ item, (dequeue now queue worker (empty.after calls)).1 = .ok item) ↔
    ∃ i ∈ (empty.after calls).queue, i.queue = queue ∧ i.running = false
  /-- and otherwise it is not found. -/
  exhausted : ∀ now worker,
    (¬ ∃ i ∈ (empty.after calls).queue, i.queue = queue ∧ i.running = false) →
    ∃ subject, dequeue now queue worker (empty.after calls) =
      (.error (.notFound subject), empty.after calls)
  /-- The item that is handed out is the worker's from then on. -/
  assigned : ∀ now worker item s', dequeue now queue worker (empty.after calls) = (.ok item, s') →
    item.running = true ∧ item.runningOn = some worker ∧
      ∃ i ∈ s'.queue, i.id = item.id ∧ i.running = true ∧ i.runningOn = some worker
  /-- An item that has been claimed stays as it is as long as it is there. -/
  final : ∀ i ∈ (empty.after calls).queue, i.running = true → ∀ more,
    ∀ j ∈ ((empty.after calls).after more).queue, j.id = i.id → j = i
  /-- So many workers in a row claim as many items, or all. -/
  count : ∀ workers,
    (claimed queue ((empty.after calls).answers (claimsOn queue workers))).length =
      min ((empty.after calls).waitingOn queue).length workers.length

theorem newItems_map_new (position : Nat) (batch : List NewQueueItem) :
    (newItems position batch).map (fun i => (⟨i.run, i.queue⟩ : NewQueueItem)) = batch := by
  induction batch generalizing position with
  | nil => rfl
  | cons new rest ih => rw [newItems, List.map_cons, ih]; rfl

/-- A batch that is put on the queue is answered with its items in their order. -/
theorem enqueue_ok {s : Store} {now : Timestamp} {batch : List NewQueueItem}
    {items : List QueueItem} (run : ((StoreCall.enqueue batch).run now s).1 = .ok items) :
    items.map (fun x => (⟨x.run.id, x.queue⟩ : NewQueueItem)) = batch := by
  rcases enqueue_cases batch s with ⟨-, e, refused⟩ | ⟨-, shown, accepted, shows⟩
  · rw [StoreCall.run, refused] at run
    cases run
  · rw [StoreCall.run, accepted] at run
    obtain rfl : shown = items := Except.ok.inj run
    calc shown.map (fun x => (⟨x.run.id, x.queue⟩ : NewQueueItem))
        = (shown.map (·.entry)).map fun e => ⟨e.run, e.queue⟩ := by rw [List.map_map]; rfl
      _ = ((newItems s.nextPosition batch).map (·.entry)).map fun e => ⟨e.run, e.queue⟩ := by
        rw [shows.entries]
      _ = (newItems s.nextPosition batch).map fun i => ⟨i.run, i.queue⟩ := by
        rw [List.map_map]; rfl
      _ = batch := newItems_map_new _ _

/-- Every queue is **served in order** after any calls: each item is claimed at most once, in the
order in which they were put on the queue, and a claim is final. -/
theorem serves_inOrder (calls : List DueCall) (queue : String) : ServesInOrder calls queue := by
  have whole := integrity_empty.after calls
  have someWaits : (∃ i ∈ (empty.after calls).queue, i.queue = queue ∧ i.running = false) ↔
      (empty.after calls).waitingOn queue ≠ [] := by
    simp only [← mem_waitingOn]
    simp [List.eq_nil_iff_forall_not_mem]
  constructor
  case batches =>
    intro batch items answered
    obtain ⟨s, call, now, -, same⟩ := integrity_empty.exists_of_mem_answers answered
    obtain ⟨rfl, reply⟩ := Answered.mk.inj same
    have answer : .ok items = ((StoreCall.enqueue batch).run now s).1 := eq_of_heq reply
    exact enqueue_ok answer.symm
  case fresh =>
    rw [integrity_empty.entered_ids calls]
    exact itemIds_nodup _ _
  case once =>
    have distinct := claimed_nodup calls queue
    rw [List.map_append] at distinct
    exact (List.nodup_append'.mp distinct).1
  case inOrder =>
    exact (List.sublist_append_left _ _).trans (integrity_empty.claims_inOrder calls queue)
  case marked =>
    intro i known own
    rw [← own]
    exact running_iff known
  case available =>
    intro now worker
    rw [someWaits]
    rcases whole.dequeue_ends now queue worker with
      ⟨nothingWaits, subject, run⟩ | ⟨i, r, started, waiting, -, run⟩
    · simp [run, nothingWaits]
    · have waits := List.ne_nil_of_mem (mem_of_waiting?_eq_some waiting)
      simp [run, waits]
  case exhausted =>
    intro now worker nothingWaits
    rw [someWaits, not_not] at nothingWaits
    rcases whole.dequeue_ends now queue worker with
      ⟨-, subject, run⟩ | ⟨i, r, started, waiting, -, -⟩
    · exact ⟨subject, run⟩
    · have waits := mem_of_waiting?_eq_some waiting
      rw [nothingWaits] at waits
      cases waits
  case assigned =>
    intro now worker item s' claimed
    rcases whole.dequeue_ends now queue worker with
      ⟨-, subject, run⟩ | ⟨i, r, started, waiting, -, run⟩
    · cases claimed.symm.trans run
    · obtain ⟨same, rfl⟩ := Prod.mk.inj (claimed.symm.trans run)
      obtain rfl := Except.ok.inj same
      obtain ⟨queued, -⟩ := mem_waitingOn.mp (mem_of_waiting?_eq_some waiting)
      refine ⟨rfl, rfl, claim now worker i, ?_, rfl, rfl, rfl⟩
      exact List.mem_map.mpr ⟨i, queued, if_pos rfl⟩
  case final =>
    intro i known running more j known' same
    exact claim_final known running known' same
  case count =>
    intro workers
    rw [whole.claimed_claimsOn, List.length_map, List.length_take, Nat.min_comm]

end Store

end Dispatch
