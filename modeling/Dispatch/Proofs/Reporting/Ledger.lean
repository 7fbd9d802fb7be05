import Dispatch.Proofs.Cancellation
import Dispatch.Proofs.Reporting.Trail

/-!
# The ledger of notifications

A ledger compares the trail of each run with the store. Between a call to the store and the
notification about it the two differ, but in a way that can be told: a run that has just been
claimed is still announced as pending, and a run that has just ended still lacks the notification
that says so. Whoever hands that notification over brings the ledger up to date.

## Main definitions

* `InOrder`: the order of the stages of a run, and how the last one agrees with its ending.
* `Run.Entered`, `Store.Ledger`: the trail of every run agrees with the store.
* `Run.Claimed`, `Run.Due`: a run that has just been claimed, or has just ended.
* `Calm`: nothing happens to any run.

## Main results

* `Store.Ledger.notice`: a notification that comes next in the order is entered.
* `Store.Ledger.endRuns`: runs that end are due.
* `Store.Ledger.finishRun`, `Store.Ledger.cancelTask`, `Store.Ledger.dequeue` and
  `Store.Ledger.enqueue`: what the calls to the store do to the ledger.
* `Store.Ledger.createRun`: a run is entered with the notification that it is pending.
-/

namespace Dispatch

/-! ### Entries -/

/-- The stages of a run **in order**: it is pending, then it starts at most once, and then it ends
at most once, in the state that agrees with how it got its status. -/
def InOrder (stages : List Stage) (endings : List Run.Ending) : Prop :=
  ∃ started ended, stages = .pending :: (started ++ ended) ∧
    (started = [] ∨ started = [.started]) ∧
    (ended = [] ∨ ∃ how, endings = [how] ∧ ended = [.ended how.state])

/-- A run that has not ended has no status, and one that has ended has the status that it ended
with. -/
def Settles : List Run.Ending → Option Bool → Prop
  | [], status => status = none
  | [how], status => status = some how.success
  | _, _ => False

/-- The trail of a run **agrees with the store**. -/
structure Run.Entered (r : Run) (past : Trace) (s : Store) : Prop where
  address : ∀ n ∈ past.about r.id, s.Addresses r.task n.address
  subject : ∀ n ∈ past.about r.id, n.report.subject? = some (r.id, r.name)
  order : InOrder (past.stages r.id) (past.endings r.id)
  status : Settles (past.endings r.id) r.status
  /-- While a run waits on the queue, it is only pending. -/
  waiting : ∀ i ∈ s.queue, i.running = false → i.run = r.id → past.stages r.id = [.pending]

/-- The trail of **every run** agrees with the store. -/
structure Store.Ledger (s : Store) (past : Trace) : Prop where
  whole : s.Integrity
  entries : ∀ r ∈ s.runs, r.Entered past s
  /-- There is no trail of a run that has not been created yet. -/
  silent : ∀ id, id ∉ s.runs.map (·.id) → past.about id = [] ∧ past.endings id = []

/-- A run that **has been announced** and has not gone on. -/
structure Run.Announced (r : Run) (past : Trace) (s : Store) : Prop where
  known : r ∈ s.runs
  pending : past.stages r.id = [.pending]

/-- A run that **has just been claimed**: it is only pending, and it waits no more. -/
structure Run.Claimed (r : Run) (past : Trace) (s : Store) : Prop extends r.Announced past s where
  gone : ∀ i ∈ s.queue, i.running = false → i.run ≠ r.id

/-- A run that **has just ended**: no notification has said so yet. -/
structure Run.Due (r : Run) (past : Trace) (s : Store) (how : Run.Ending) : Prop where
  known : r ∈ s.runs
  begun : ∃ started, past.stages r.id = .pending :: started ∧ (started = [] ∨ started = [.started])
  ending : past.endings r.id = [how]
  gone : ∀ i ∈ s.queue, i.running = false → i.run ≠ r.id

/-- **Nothing happens to any run**: there is nothing new about it in the trace, and in the store it
is the same. -/
structure Calm (past : Trace) (s : Store) (past' : Trace) (s' : Store) : Prop where
  about : ∀ id, past'.about id = past.about id
  endings : ∀ id, past'.endings id = past.endings id
  runs : s'.runs = s.runs
  queue : s'.queue = s.queue
  later : s.Later s'

theorem Calm.stages {past past' : Trace} {s s' : Store} (h : Calm past s past' s') (id : Id) :
    past'.stages id = past.stages id := by
  rw [Trace.stages, h.about, Trace.stages]

theorem Trace.Silent.calm {past tr : Trace} (h : tr.Silent) {s s' : Store} (runs : s'.runs = s.runs)
    (queue : s'.queue = s.queue) (later : s.Later s') : Calm past s (past ++ tr) s' where
  about id := by simp [h id]
  endings id := by simp [h id]
  runs := runs
  queue := queue
  later := later

namespace Run

variable {past past' : Trace} {s s' : Store} {r : Run} {how : Run.Ending}

theorem Announced.calm (h : r.Announced past s) (calm : Calm past s past' s') :
    r.Announced past' s' where
  known := calm.runs ▸ h.known
  pending := (calm.stages r.id).trans h.pending

theorem Claimed.calm (h : r.Claimed past s) (calm : Calm past s past' s') : r.Claimed past' s' where
  toAnnounced := h.toAnnounced.calm calm
  gone := calm.queue ▸ h.gone

theorem Due.calm (h : r.Due past s how) (calm : Calm past s past' s') : r.Due past' s' how where
  known := calm.runs ▸ h.known
  begun := by
    rw [calm.stages]
    exact h.begun
  ending := (calm.endings r.id).trans h.ending
  gone := calm.queue ▸ h.gone

/-- It stays due while others are reported on. -/
theorem Due.other (h : r.Due past s how) {n : Notification} {id : Id} {name : String}
    (subject : n.report.subject? = some (id, name)) (other : r.id ≠ id) :
    r.Due (past ++ [Event.notice n]) s how where
  known := h.known
  begun := by
    rw [Trace.stages_append, Trace.stages, Trace.stages, Trace.about_other subject other,
      List.map_nil, List.append_nil]
    exact h.begun
  ending := by
    rw [Trace.endings_append, Trace.endings_notice, List.append_nil]
    exact h.ending
  gone := h.gone

end Run

namespace Run.Entered

variable {past past' : Trace} {s s' : Store} {r r' : Run}

/-- A run of which **no notification speaks** in the meantime is entered later, as long as what its
status has become agrees with its stages, and it waits on the queue only while it is pending. -/
theorem carry (h : r.Entered past s) (later : s.Later s') (same : r'.SameWork r)
    (about : past'.about r.id = past.about r.id)
    (order : InOrder (past.stages r.id) (past'.endings r.id))
    (settles : Settles (past'.endings r.id) r'.status)
    (waiting : ∀ i ∈ s'.queue, i.running = false → i.run = r.id → past.stages r.id = [.pending]) :
    r'.Entered past' s' := by
  have stages : past'.stages r.id = past.stages r.id := by
    rw [Trace.stages, about, ← Trace.stages]
  constructor
  case address =>
    rw [same.id, same.task, about]
    exact fun n mem => (h.address n mem).later later
  case subject =>
    rw [same.id, same.name, about]
    exact h.subject
  case order =>
    rw [same.id, stages]
    exact order
  case status =>
    rw [same.id]
    exact settles
  case waiting =>
    rw [same.id, stages]
    exact waiting

/-- The same for a run that **has not ended** in the meantime. -/
theorem keep (h : r.Entered past s) (later : s.Later s') (same : r'.SameWork r)
    (status : r'.status = r.status) (about : past'.about r.id = past.about r.id)
    (endings : past'.endings r.id = past.endings r.id)
    (waiting : ∀ i ∈ s'.queue, i.running = false → i.run = r.id → past.stages r.id = [.pending]) :
    r'.Entered past' s' := by
  refine h.carry later same about ?_ ?_ waiting
  · rw [endings]
    exact h.order
  · rw [endings, status]
    exact h.status

/-- A run that has only been **announced** is entered before it is put on the queue. -/
theorem announced {n : Notification} (about : past.about r.id = [n])
    (report : n.report = .pending r.id r.name) (address : s.Addresses r.task n.address)
    (endings : past.endings r.id = []) (unended : r.status = none)
    (absent : ∀ i ∈ s.queue, i.run ≠ r.id) : r.Entered past s := by
  constructor
  case address =>
    rw [about]
    exact List.forall_mem_singleton.mpr address
  case subject =>
    rw [about, List.forall_mem_singleton, report]
    rfl
  case order =>
    rw [Trace.stages, about, List.map_singleton, report]
    exact ⟨[], [], rfl, .inl rfl, .inl rfl⟩
  case status =>
    rw [endings]
    exact unended
  case waiting => exact fun i queued _ same => absurd same (absent i queued)

end Run.Entered

namespace Store.Ledger

variable {past tr : Trace} {s s' : Store} {r : Run} {n : Notification}

/-- Before anything has happened. -/
theorem start (whole : s.Integrity) (noRuns : s.runs = []) : s.Ledger [] where
  whole := whole
  entries := by simp [noRuns]
  silent id _ := ⟨rfl, rfl⟩

/-! ### Notifications -/

/-- A notification that comes **next in the order** of its run is entered. -/
theorem notice (h : s.Ledger past) (known : r ∈ s.runs)
    (subject : n.report.subject? = some (r.id, r.name)) (address : s.Addresses r.task n.address)
    (order : InOrder (past.stages r.id ++ [n.report.stage]) (past.endings r.id))
    (gone : ∀ i ∈ s.queue, i.running = false → i.run ≠ r.id) :
    s.Ledger (past ++ [Event.notice n]) where
  whole := h.whole
  entries q mem := by
    have entered := h.entries q mem
    by_cases own : q.id = r.id
    · obtain rfl : q = r := h.whole.eq_of_run_id mem known own
      have about : (past ++ [Event.notice n]).about q.id = past.about q.id ++ [n] := by
        rw [Trace.about_append, Trace.about_own subject]
      constructor
      case address =>
        rw [about]
        exact forall_mem_append_one entered.address address
      case subject =>
        rw [about]
        exact forall_mem_append_one entered.subject subject
      case order =>
        rw [Trace.stages, about, List.map_append, ← Trace.stages, Trace.endings_append]
        simpa using order
      case status => simpa using entered.status
      case waiting => exact fun i queued waits same => absurd same (gone i queued waits)
    · have about : (past ++ [Event.notice n]).about q.id = past.about q.id := by
        rw [Trace.about_append, Trace.about_other subject own, List.append_nil]
      exact entered.keep (.refl s) (.refl q) rfl about (by simp) entered.waiting
  silent id unknown := by
    have other : id ≠ r.id := by
      rintro rfl
      exact unknown (List.mem_map_of_mem known)
    have before := h.silent id unknown
    simp [Trace.about_other subject other, before]

/-- That a run that has just been claimed **starts** is entered. -/
theorem started (h : s.Ledger past) (claimed : r.Claimed past s)
    (report : n.report = .started r.id r.name) (address : s.Addresses r.task n.address) :
    s.Ledger (past ++ [Event.notice n]) := by
  refine h.notice claimed.known (by rw [report]; rfl) address ?_ claimed.gone
  rw [claimed.pending, report]
  exact ⟨[.started], [], rfl, .inr rfl, .inl rfl⟩

/-- How a run that has just ended **has ended** is entered. -/
theorem ended {how : Run.Ending} (h : s.Ledger past) (due : r.Due past s how)
    (subject : n.report.subject? = some (r.id, r.name)) (stage : n.report.stage = .ended how.state)
    (address : s.Addresses r.task n.address) : s.Ledger (past ++ [Event.notice n]) := by
  refine h.notice due.known subject address ?_ due.gone
  obtain ⟨started, begun, once⟩ := due.begun
  rw [begun, stage]
  exact ⟨started, [.ended how.state], rfl, once, .inr ⟨how, due.ending, rfl⟩⟩

/-! ### Runs that end -/

end Store.Ledger

namespace Store

/-- Between two stores **some runs end**, all in the same way, and leave the queue. -/
structure EndsRuns (s s' : Store) (ended : List Id) (how : Run.Ending) : Prop where
  later : s.Later s'
  whole : s'.Integrity
  known : ∀ id ∈ ended, id ∈ s'.runs.map (·.id)
  /-- They had no status. All others keep theirs. -/
  runs : ∀ r' ∈ s'.runs, ∃ r ∈ s.runs, r'.SameWork r ∧ (r.id ∈ ended → r.status = none ∧
    r'.status = some how.success) ∧ (r.id ∉ ended → r'.status = r.status)
  waiting : ∀ i ∈ s'.queue, i.running = false → i ∈ s.queue ∧ i.run ∉ ended

end Store

namespace Store.Ledger

variable {past tr : Trace} {s s' : Store} {r : Run} {n : Notification} {ended : List Id}
  {how : Run.Ending}

/-- A run without a status has not ended, and no notification says that it has. -/
theorem unended (h : s.Ledger past) (known : r ∈ s.runs) (unended : r.status = none) :
    past.endings r.id = [] ∧ ∃ started, past.stages r.id = .pending :: started ∧
      (started = [] ∨ started = [.started]) := by
  have entered := h.entries r known
  have noEnding : past.endings r.id = [] := by
    have settles := entered.status
    match endings : past.endings r.id with
    | [] => rfl
    | [how] =>
        rw [endings, unended] at settles
        cases settles
    | _ :: _ :: _ =>
        rw [endings] at settles
        exact settles.elim
  obtain ⟨started, ended, stages, once, ends⟩ := entered.order
  refine ⟨noEnding, started, ?_, once⟩
  rcases ends with rfl | ⟨how, oneEnding, -⟩
  · rw [stages, List.append_nil]
  · rw [noEnding] at oneEnding
    cases oneEnding

/-- The ledger of **runs that end**: they are due. -/
theorem endRuns (h : s.Ledger past) (step : s.EndsRuns s' ended how)
    (about : ∀ id, tr.about id = [])
    (endings : ∀ id, tr.endings id = if id ∈ ended then [how] else []) :
    s'.Ledger (past ++ tr) ∧ ∀ r ∈ s'.runs, r.id ∈ ended → r.Due (past ++ tr) s' how := by
  have about' (id : Id) : (past ++ tr).about id = past.about id := by simp [about]
  have stages' (id : Id) : (past ++ tr).stages id = past.stages id := by
    rw [Trace.stages, about', ← Trace.stages]
  have endings' (id : Id) : (past ++ tr).endings id =
      past.endings id ++ if id ∈ ended then [how] else [] := by simp [endings]
  refine ⟨⟨step.whole, fun r' mem => ?_, fun id unknown => ?_⟩, fun r' mem own => ?_⟩
  · obtain ⟨r, known, same, strikes, spares⟩ := step.runs r' mem
    have entered := h.entries r known
    have waiting : ∀ i ∈ s'.queue, i.running = false → i.run = r.id →
        past.stages r.id = [.pending] := fun i queued waits own =>
      entered.waiting i (step.waiting i queued waits).1 waits own
    by_cases struck : r.id ∈ ended
    · obtain ⟨unended, status⟩ := strikes struck
      obtain ⟨noEnding, started, begun, once⟩ := h.unended known unended
      have endings := endings' r.id
      rw [noEnding, if_pos struck, List.nil_append] at endings
      refine entered.carry step.later same (about' r.id) ?_ ?_ waiting
      · rw [begun]
        exact ⟨started, [], by rw [List.append_nil], once, .inl rfl⟩
      · rw [endings]
        exact status
    · have endings := endings' r.id
      rw [if_neg struck, List.append_nil] at endings
      exact entered.keep step.later same (spares struck) (about' r.id) endings waiting
  · have before : id ∉ s.runs.map (·.id) := by
      intro known
      obtain ⟨r, mem, rfl⟩ := List.mem_map.mp known
      obtain ⟨r', mem', same⟩ := step.later.runs r mem
      exact unknown (List.mem_map.mpr ⟨r', mem', same.id⟩)
    have apart : id ∉ ended := fun own => unknown (step.known id own)
    obtain ⟨silent, noEnding⟩ := h.silent id before
    exact ⟨by rw [about', silent], by rw [endings', noEnding, if_neg apart, List.append_nil]⟩
  · obtain ⟨r, known, same, strikes, -⟩ := step.runs r' mem
    rw [same.id] at own
    obtain ⟨noEnding, begun⟩ := h.unended known (strikes own).1
    refine ⟨mem, ?_, ?_, fun i queued waits => ?_⟩
    · rw [stages', same.id]
      exact begun
    · rw [endings', same.id, noEnding, if_pos own, List.nil_append]
    · intro eq
      have struck : i.run ∈ ended := by
        rw [eq, same.id]
        exact own
      exact (step.waiting i queued waits).2 struck

/-- A **calm** course leaves the ledger as it is. -/
theorem calm (h : s.Ledger past) (calm : Calm past s (past ++ tr) s') (whole : s'.Integrity) :
    s'.Ledger (past ++ tr) := by
  have step : s.EndsRuns s' [] .canceled := by
    refine ⟨calm.later, whole, by simp, fun r' mem => ?_, fun i queued waits => ?_⟩
    · exact ⟨r', calm.runs ▸ mem, .refl r', by simp, fun _ => rfl⟩
    · exact ⟨calm.queue ▸ queued, by simp⟩
  refine (h.endRuns step (fun id => ?_) fun id => ?_).1
  · simpa using calm.about id
  · simpa using calm.endings id

/-- A trace that leaves no trail leaves the ledger as it is. -/
theorem silently (h : s.Ledger past) (silent : tr.Silent) : s.Ledger (past ++ tr) :=
  h.calm (silent.calm rfl rfl (.refl s)) h.whole

end Store.Ledger

/-! ### Calls to the store -/

namespace Store

variable {s s' : Store} {now : Timestamp}

/-- Some runs without a status **get the same one** and leave the queue. -/
theorem endsRuns_of_map (now : Timestamp) {p : Run → Bool} {ended : List Id} {how : Run.Ending}
    (whole : s.Integrity) (moves : s.Move s') (known : ∀ id ∈ ended, id ∈ s.runs.map (·.id))
    (own : ∀ r ∈ s.runs, p r = true ↔ r.id ∈ ended)
    (unended : ∀ r ∈ s.runs, p r = true → r.status = none)
    (runs : s'.runs = s.runs.map fun r => if p r then endRun now how.success r else r)
    (queue : ∀ i ∈ s'.queue, i ∈ s.queue ∧ i.run ∉ ended) : s.EndsRuns s' ended how where
  later := .move moves
  whole := whole.move moves
  known id mem := by
    obtain ⟨r, knownRun, rfl⟩ := List.mem_map.mp (known id mem)
    obtain ⟨r', mem', same⟩ := (Later.move moves).runs r knownRun
    exact List.mem_map.mpr ⟨r', mem', same.id⟩
  runs r' mem := by
    rw [runs] at mem
    obtain ⟨r, knownRun, rfl⟩ := List.mem_map.mp mem
    refine ⟨r, knownRun, ?_, fun struck => ?_, fun spared => ?_⟩
    · split
      exacts [⟨rfl, rfl, rfl, rfl⟩, .refl r]
    · have strikes : p r = true := (own r knownRun).mpr struck
      rw [if_pos strikes]
      exact ⟨unended r knownRun strikes, rfl⟩
    · rw [if_neg fun strikes => spared ((own r knownRun).mp strikes)]
  waiting i queued _ := queue i queued

/-- The run that is finished ends. -/
theorem Integrity.endsRuns_finishRun (h : s.Integrity) {id : Id} {success : Bool}
    {done : RunCompletion} (run : Store.finishRun now id success s = (.ok done, s')) :
    s.EndsRuns s' [id] (.recorded success) ∧ done.run ∈ s'.runs ∧ done.run.id = id := by
  have moves : s.Move s' := by
    have moves := StoreCall.run_moves h (.finishRun id success) now
    rwa [StoreCall.run, run] at moves
  rcases finishRun_cases now id success s with
    ⟨-, e, failed⟩ | ⟨r, found, unended, ⟨-, e, failed⟩ | ⟨t, -, -, ended⟩ | ⟨t, b, -, -, -, ended⟩⟩
  · cases failed.symm.trans run
  · cases failed.symm.trans run
  all_goals
    obtain ⟨known, rfl⟩ := h.run?_eq_some.mp found
    cases ended.symm.trans run
    refine ⟨endsRuns_of_map now (p := fun q => q.id = r.id) h moves ?_ (by simp) ?_ ?_ ?_, ?_, rfl⟩
    · simpa using ⟨r, known, rfl⟩
    · intro q mem own
      obtain rfl : q = r := h.eq_of_run_id mem known (of_decide_eq_true own)
      exact unended
    · exact List.map_congr_left fun q _ => by simp [Run.Ending.success]
    · intro i queued
      obtain ⟨queued, apart⟩ := List.mem_filter.mp queued
      exact ⟨queued, by simpa using apart⟩
    · exact List.mem_map.mpr ⟨r, known, if_pos rfl⟩

/-- The runs that end with a canceled task are its open runs. -/
theorem mem_canceledRuns {task : Id} {q : Run} :
    q ∈ s.canceledRuns now task ↔
      ∃ r ∈ s.runs, isOpenRunOf task r = true ∧ q = endRun now false r := by
  rw [canceledRuns, List.mem_mergeSort, List.mem_map]
  constructor
  · rintro ⟨r, mem, rfl⟩
    obtain ⟨known, isOpen⟩ := List.mem_filter.mp mem
    exact ⟨r, known, isOpen, rfl⟩
  · rintro ⟨r, known, isOpen, rfl⟩
    exact ⟨r, List.mem_filter.mpr ⟨known, isOpen⟩, rfl⟩

/-- Each of them is listed once. -/
theorem Integrity.canceledRuns_nodup (h : s.Integrity) (task : Id) :
    ((s.canceledRuns now task).map (·.id)).Nodup := by
  have sorted : (s.canceledRuns now task).Perm _ := List.mergeSort_perm _ _
  rw [(sorted.map (·.id)).nodup_iff, List.map_map]
  exact h.runs.nodup.sublist (List.filter_sublist.map _)

/-- The open runs of a task that is canceled end. -/
theorem Integrity.endsRuns_cancelTask (h : s.Integrity) {task : Id} {runs : List Run}
    (run : Store.cancelTask now task s = (.ok runs, s')) :
    s.EndsRuns s' (runs.map (·.id)) .canceled ∧ (runs.map (·.id)).Nodup ∧
      ∀ r ∈ runs, r ∈ s'.runs ∧ r.task = task := by
  have moves : s.Move s' := by
    have moves := StoreCall.run_moves h (.cancelTask task) now
    rwa [StoreCall.run, run] at moves
  rcases cancelTask_cases now task s with ⟨-, _, failed⟩ | ⟨_, -, -, _, failed⟩ | ⟨t, -, -, ended⟩
  · cases failed.symm.trans run
  · cases failed.symm.trans run
  · cases ended.symm.trans run
    have open_iff : ∀ r ∈ s.runs,
        isOpenRunOf task r = true ↔ r.id ∈ (s.canceledRuns now task).map (·.id) := by
      intro r known
      constructor
      · exact fun isOpen => List.mem_map.mpr ⟨_, mem_canceledRuns.mpr ⟨r, known, isOpen, rfl⟩, rfl⟩
      · intro listed
        obtain ⟨_, mem, same⟩ := List.mem_map.mp listed
        obtain ⟨q, known', isOpen, rfl⟩ := mem_canceledRuns.mp mem
        obtain rfl : q = r := h.eq_of_run_id known' known same
        exact isOpen
    refine ⟨endsRuns_of_map now h moves ?_ open_iff ?_ rfl ?_, h.canceledRuns_nodup task, ?_⟩
    · intro id listed
      obtain ⟨_, mem, rfl⟩ := List.mem_map.mp listed
      obtain ⟨r, known, -, rfl⟩ := mem_canceledRuns.mp mem
      exact List.mem_map.mpr ⟨r, known, rfl⟩
    · intro r _ isOpen
      rw [isOpenRunOf, Bool.and_eq_true] at isOpen
      exact Option.isNone_iff_eq_none.mp isOpen.2
    · intro i queued
      obtain ⟨queued, apart⟩ := mem_canceling_queue.mp queued
      refine ⟨queued, fun listed => ?_⟩
      obtain ⟨_, mem, same⟩ := List.mem_map.mp listed
      obtain ⟨r, known, isOpen, rfl⟩ := mem_canceledRuns.mp mem
      simp only [isOpenRunOf, Bool.and_eq_true, decide_eq_true_eq,
        Option.isNone_iff_eq_none] at isOpen
      exact apart r known isOpen.1 isOpen.2 same
    · intro q mem
      obtain ⟨r, known, isOpen, rfl⟩ := mem_canceledRuns.mp mem
      simp only [isOpenRunOf, Bool.and_eq_true, decide_eq_true_eq,
        Option.isNone_iff_eq_none] at isOpen
      exact ⟨canceling_runs_of_eq known isOpen.1 isOpen.2, isOpen.1⟩

namespace Ledger

variable {past tr : Trace} {n : Notification}

/-- A run that **is finished** is due. -/
theorem finishRun (h : s.Ledger past) {id : Id} {success : Bool} {done : RunCompletion}
    (run : Store.finishRun now id success s = (.ok done, s')) :
    s'.Ledger (past ++ [.store (.finishRun id success) (.ok done)]) ∧
      done.run.Due (past ++ [.store (.finishRun id success) (.ok done)]) s'
        (.recorded success) := by
  obtain ⟨ends, known, own⟩ := h.whole.endsRuns_finishRun run
  have endings (q : Id) : Trace.endings [.store (.finishRun id success) (.ok done)] q =
      if q ∈ [id] then [.recorded success] else [] := by
    by_cases same : id = q
    · simp [Trace.endings, Event.ending?, same]
    · simp [Trace.endings, Event.ending?, same, Ne.symm same]
  obtain ⟨ledger, due⟩ := h.endRuns ends (fun _ => rfl) endings
  exact ⟨ledger, due _ known (List.mem_singleton.mpr own)⟩

/-- The open runs of a task that **is canceled** are due. -/
theorem cancelTask (h : s.Ledger past) {task : Id} {runs : List Run}
    (run : Store.cancelTask now task s = (.ok runs, s')) :
    s'.Ledger (past ++ [.store (.cancelTask task) (.ok runs)]) ∧ (runs.map (·.id)).Nodup ∧
      ∀ r ∈ runs, r.task = task ∧
        r.Due (past ++ [.store (.cancelTask task) (.ok runs)]) s' .canceled := by
  obtain ⟨ends, distinct, known⟩ := h.whole.endsRuns_cancelTask run
  have endings (q : Id) : Trace.endings [.store (.cancelTask task) (.ok runs)] q =
      if q ∈ runs.map (·.id) then [.canceled] else [] := by
    by_cases listed : q ∈ runs.map (·.id)
    · simp only [Trace.endings, List.filterMap_cons, Event.ending?, if_pos listed,
        List.filterMap_nil]
    · simp only [Trace.endings, List.filterMap_cons, Event.ending?, if_neg listed,
        List.filterMap_nil]
  obtain ⟨ledger, due⟩ := h.endRuns ends (fun _ => rfl) endings
  refine ⟨ledger, distinct, fun r mem => ⟨(known r mem).2, ?_⟩⟩
  exact due r (known r mem).1 (List.mem_map_of_mem mem)

/-- The run of an item that **is claimed** waits no more. -/
theorem dequeue (h : s.Ledger past) {queue worker : String} {item : QueueItem}
    (run : Store.dequeue now queue worker s = (.ok item, s')) :
    s'.Ledger (past ++ [.store (.dequeue queue worker) (.ok item)]) ∧
      item.run.Claimed (past ++ [.store (.dequeue queue worker) (.ok item)]) s' := by
  have endsNone : (StoreCall.dequeue queue worker).EndsNoRun := trivial
  have silent : Trace.Silent [.store (.dequeue queue worker) (.ok item)] := endsNone.silent _
  have moves : s.Move s' := by
    have moves := StoreCall.run_moves h.whole (.dequeue queue worker) now
    rwa [StoreCall.run, run] at moves
  have whole := h.whole.move moves
  rcases dequeue_cases now queue worker s with
    ⟨-, _, failed⟩ | ⟨i, waits, ⟨-, e, failed⟩ | ⟨r, found, claimed⟩⟩
  · cases failed.symm.trans run
  · cases failed.symm.trans run
  · have both := claimed.symm.trans run
    obtain rfl : s.claiming now worker i r = s' := congrArg Prod.snd both
    obtain ⟨known, same⟩ := h.whole.run?_eq_some.mp found
    obtain ⟨queued, -, idle⟩ := mem_waitingOn.mp (mem_of_waiting?_eq_some waits)
    obtain ⟨q, shown, rfl⟩ := queueItem_eq_ok.mp (congrArg Prod.fst both)
    obtain ⟨knownShown, own⟩ := whole.run?_eq_some.mp shown
    have own : q.id = r.id := own.trans same.symm
    -- Whatever still waits has been waiting before, and it is another item.
    have waiting : ∀ j ∈ (s.claiming now worker i r).queue, j.running = false →
        j ∈ s.queue ∧ j.position ≠ i.position := by
      intro j mem idle
      obtain ⟨k, queued, rfl⟩ := List.mem_map.mp mem
      by_cases same : k.position = i.position
      · rw [if_pos same] at idle
        cases idle
      · rw [if_neg same]
        exact ⟨queued, same⟩
    have step : s.EndsRuns (s.claiming now worker i r) [] .canceled := by
      refine ⟨.move moves, whole, by simp, fun r' mem => ?_, fun j mem idle => ?_⟩
      · obtain ⟨q, known, rfl⟩ := List.mem_map.mp mem
        refine ⟨q, known, ?_, by simp, fun _ => ?_⟩
        · split
          exacts [⟨rfl, rfl, rfl, rfl⟩, .refl q]
        · split <;> rfl
      · exact ⟨(waiting j mem idle).1, by simp⟩
    refine ⟨(h.endRuns step (fun id => (silent id).1) fun id => by simp [silent id]).1, ?_⟩
    have entered := h.entries r known
    refine ⟨⟨knownShown, ?_⟩, fun j mem idle' same' => ?_⟩
    · change Trace.stages _ q.id = _
      rw [Trace.stages, Trace.about_append, (silent q.id).1, List.append_nil, own]
      exact entered.waiting i queued idle same.symm
    · obtain ⟨queued', apart⟩ := waiting j mem idle'
      obtain rfl : j = i := h.whole.eq_of_item_run queued' queued (same'.trans (own.trans same))
      exact apart rfl

/-- Runs that have been announced **are put on the queue**. -/
theorem enqueue (h : s.Ledger past) {batch : List NewQueueItem} {shown : List QueueItem}
    (run : Store.enqueue batch s = (.ok shown, s'))
    (announced : ∀ new ∈ batch, past.stages new.run = [.pending]) :
    s'.Ledger (past ++ [.store (.enqueue batch) (.ok shown)]) := by
  have endsNone : (StoreCall.enqueue batch).EndsNoRun := trivial
  have silent : Trace.Silent [.store (.enqueue batch) (.ok shown)] := endsNone.silent _
  rcases enqueue_cases batch s with ⟨-, e, failed⟩ | ⟨accepted, _, added, -⟩
  · cases failed.symm.trans run
  · cases added.symm.trans run
    have about (id : Id) : (past ++ [Event.store (.enqueue batch) (.ok shown)]).about id =
        past.about id := by simp [silent id]
    have endings (id : Id) : (past ++ [Event.store (.enqueue batch) (.ok shown)]).endings id =
        past.endings id := by simp [silent id]
    have later : s.Later (s.queueing batch) := .move (.queueing batch accepted)
    refine ⟨h.whole.queueing accepted, fun r known => ?_, fun id unknown => ?_⟩
    · have entered := h.entries r known
      refine entered.keep later (.refl r) rfl (about r.id) (endings r.id) ?_
      intro i queued idle own
      rcases List.mem_append.mp queued with old | new
      · exact entered.waiting i old idle own
      · obtain ⟨x, mem, eq, -⟩ := mem_newItems new
        rw [← own, eq]
        exact announced x mem
    · rw [about, endings]
      exact h.silent id unknown

/-- A run that **is created** is entered with the notification that it is pending. -/
theorem createRun (h : s.Ledger past) {new : NewRun} {r : Run}
    (run : Store.createRun now new s = (.ok r, s'))
    (report : n.report = .pending r.id r.name) (address : s.Addresses new.task n.address) :
    s'.Ledger (past ++ [.store (.createRun new) (.ok r), .notice n]) ∧
      r.Announced (past ++ [.store (.createRun new) (.ok r), .notice n]) s' ∧
      ∀ q : Run, q.Announced past s →
        q.Announced (past ++ [.store (.createRun new) (.ok r), .notice n]) s' := by
  have moves : s.Move s' := by
    have moves := StoreCall.run_moves h.whole (.createRun new) now
    rwa [StoreCall.run, run] at moves
  have whole := h.whole.move moves
  rcases createRun_cases now new s with ⟨-, e, failed⟩ | ⟨-, added⟩
  · cases failed.symm.trans run
  · cases added.symm.trans run
    have subject : n.report.subject? = some ((s.newRun now new).id, (s.newRun now new).name) := by
      rw [report]
      rfl
    have fresh : (s.newRun now new).id ∉ s.runs.map (·.id) := by
      have next := h.whole.runs.next_notMem
      rwa [List.length_map] at next
    have about (id : Id) : (past ++ [Event.store (.createRun new) (.ok (s.newRun now new)),
        .notice n]).about id = past.about id ++ Trace.about [.notice n] id := by
      rw [Trace.about_append]
      rfl
    have endings (id : Id) : (past ++ [Event.store (.createRun new) (.ok (s.newRun now new)),
        .notice n]).endings id = past.endings id := by
      rw [Trace.endings_append]
      exact List.append_nil _
    have other {id : Id} (apart : id ≠ (s.newRun now new).id) :
        (past ++ [Event.store (.createRun new) (.ok (s.newRun now new)), .notice n]).about id =
          past.about id := by
      rw [about, Trace.about_other subject apart, List.append_nil]
    have own : (past ++ [Event.store (.createRun new) (.ok (s.newRun now new)),
        .notice n]).about (s.newRun now new).id = [n] := by
      rw [about, (h.silent _ fresh).1, Trace.about_own subject, List.nil_append]
    have apart {q : Run} (known : q ∈ s.runs) : q.id ≠ (s.newRun now new).id := fun same =>
      fresh (same ▸ List.mem_map_of_mem known)
    have later : s.Later _ := .move moves
    refine ⟨⟨whole, forall_mem_append_one (fun q known => ?_) ?_, fun id unknown => ?_⟩, ?_, ?_⟩
    · have entered := h.entries q known
      exact entered.keep later (.refl q) rfl (other (apart known)) (endings q.id) entered.waiting
    · refine .announced own report (address.later later) ?_ rfl fun i queued same => ?_
      · rw [endings, (h.silent _ fresh).2]
      · exact fresh (same ▸ h.whole.itemRun i queued)
    · rw [List.map_append, List.mem_append, List.map_singleton, List.mem_singleton,
        not_or] at unknown
      rw [other unknown.2, endings]
      exact h.silent id unknown.1
    · refine ⟨List.mem_append_right _ (List.mem_singleton_self _), ?_⟩
      rw [Trace.stages, own, List.map_singleton, report]
      rfl
    · intro q announced
      refine ⟨List.mem_append_left _ announced.known, ?_⟩
      rw [Trace.stages, other (apart announced.known), ← Trace.stages]
      exact announced.pending

end Ledger

end Store

end Dispatch
