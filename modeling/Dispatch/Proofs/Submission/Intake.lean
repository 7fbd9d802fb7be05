import Dispatch.Proofs.Accounting
import Dispatch.Proofs.Cancellation
import Dispatch.Proofs.Store.Atomicity
import Dispatch.Proofs.Submission.Picking
import Dispatch.Proofs.Submission.Resolution

/-!
# Taking in a submission

Once a submission is resolved, its tasks are picked and its runs put on the queue as one batch.
The batch is always fit to be put there, so the runs that have been recorded end up on the queue
unless the store fails; if it does, they fail too.

## Main definitions

* `Intake.lineUp`: putting the picked runs on the queue.
* `Intake.launch`: taking in what has been resolved.
* `Intake.Started`: what starting a submission comes to in the end.
* `Intake.StartFails`: how starting a submission fails.

## Main results

* `Intake.start_ends`, `Intake.start_error`: starting a submission comes to one of these ends.
* `Intake.submit_ends`: taking a submission in is resolving and starting it.
* `Intake.submit_coherent`, `Intake.submit_accounted`: what holds of tasks, runs and queue items
  holds afterwards.
-/

namespace Dispatch

/-- The queue of a new item always has a name. -/
theorem NewQueueItem.on_queue (run : Id) (queue : String) : (on run queue).queue ≠ "" := by
  change Queue.nameOrDefault queue ≠ ""
  rw [Queue.nameOrDefault]
  split
  · rw [Queue.defaultName]
    decide
  · next given => simpa using given

/-- A queue that is named is taken as it is. -/
theorem NewQueueItem.on_eq {run : Id} {queue : String} (named : queue ≠ "") :
    NewQueueItem.on run queue = ⟨run, queue⟩ := by
  rw [NewQueueItem.on, Queue.nameOrDefault, if_neg (by simpa using named)]

/-- The runs that are picked are put on the queues that their settings name. -/
theorem Picked.batch_eq {p : Picked} (named : ∀ r ∈ p.runs, r.settings.queue ≠ "") :
    p.batch = p.runs.map fun r => ⟨r.id, r.settings.queue⟩ :=
  List.map_congr_left fun r mem => NewQueueItem.on_eq (named r mem)

namespace Store

variable {s : Store} {ts : List Task} {rs : List Run}

/-- The settings of every stored run name a queue. -/
theorem Integrity.run_queue (h : s.Integrity) {r : Run} (known : r ∈ s.runs) :
    r.settings.queue ≠ "" := by
  have valid := h.runValid r known
  rw [NewRun.validate] at valid
  split at valid
  · cases valid
  · exact (RunSettings.validate_eq_ok.mp valid).2.2

/-- Runs that have just been added **can be put on the queue** together. -/
theorem acceptsBatch_addWork (whole : (s.addWork ts rs).Integrity)
    (old : ∀ i ∈ s.queue, i.run ∈ s.runs.map (·.id)) (queue : Run → String) :
    (s.addWork ts rs).AcceptsBatch (rs.map fun r => .on r.id (queue r)) := by
  have apart := List.nodup_append'.mp (List.map_append ▸ whole.runs.nodup)
  refine ⟨?_, ?_, ?_, ?_⟩
  · refine List.forall_mem_map.mpr fun r _ => NewQueueItem.on_queue _ _
  · refine List.forall_mem_map.mpr fun r mem => ?_
    exact List.mem_map_of_mem (List.mem_append_right _ mem)
  · refine List.forall_mem_map.mpr fun r mem queued => ?_
    obtain ⟨i, memItem, same⟩ := List.mem_map.mp queued
    have known := old i memItem
    rw [same] at known
    exact apart.2.2 known (List.mem_map_of_mem mem)
  · rw [List.map_map]
    exact apart.2.1

end Store

namespace Intake

open Operation Picking

variable {r : Resolved} {s s' : Store} {tr : Trace} {limit : Nat}

theorem calls_failRuns (message : String) (runs : List Run) {Q : HostCall → Prop} :
    Calls StoreCall.AddsNoWork Q (failRuns message runs) :=
  compositional_addsNoWork.failRuns Worker.calls_setStatus message runs

/-- Putting the picked runs on the queue. -/
def lineUp (p : Picked) : Operation Submitted := do
  match ← tryStore (.enqueue p.batch) with
  | .error e =>
    failRuns ("Canceled due to error: " ++ e.message) p.runs
    stage "enqueueing runs" (fail e)
  | .ok items =>
    let submission ← stage "reloading submission" (store (.getSubmission p.submission.id))
    return ⟨submission, items⟩

theorem start_eq (limit : Nat) (r : Resolved) :
    start limit r = stage "picking tasks" (pick limit r) >>= lineUp := rfl

/-- Putting runs on the queue asks the code host **nothing**. -/
theorem calls_lineUp (p : Picked) {P : StoreCall → Prop} {Q : HostCall → Prop}
    (others : ∀ call : StoreCall, call.AddsNoWork → P call) (enqueues : P (.enqueue p.batch)) :
    Calls P Q (lineUp p) := by
  refine calls_bind (calls_tryStore enqueues) fun outcome => ?_
  cases outcome with
  | error e =>
      refine calls_bind ?_ fun _ => calls_stage (calls_fail _)
      exact (calls_failRuns _ p.runs).mono others fun _ => id
  | ok items =>
      exact calls_bind (calls_stage (calls_store (others _ trivial))) fun _ => calls_pure _

/-- A batch that can be put on the queue **is put there**, unless the store fails; then all of its
runs are to fail as well, and there is an error. -/
theorem lineUp_ends {p : Picked} {res : Except OperationError Submitted}
    (h : (lineUp p).Ends s tr res s') (accepted : s.AcceptsBatch p.batch) :
    (∃ message tr' done, ¬ tr.Faultless ∧ (failRuns message p.runs).Ends s tr' done s' ∧
      ∃ e, res = .error e) ∨
    ∃ shown, s' = s.queueing p.batch ∧
      s'.Shows (Store.newItems s.nextPosition p.batch) shown ∧
      (∀ token call reply, Event.host token call reply ∉ tr) ∧
      ∀ result, res = .ok result →
        result.items = shown ∧ s'.submission p.submission.id = .ok result.submission := by
  have lookup (items : List QueueItem) : Calls StoreCall.IsLookup (fun _ => False)
      (stage "reloading submission" (store (.getSubmission p.submission.id)) >>=
        fun submission => (pure ⟨submission, items⟩ : Operation Submitted)) :=
    calls_bind (calls_stage (calls_store trivial)) fun _ => calls_pure _
  rcases ends_bind.mp h with ⟨e, tried, -⟩ | ⟨reply, s₁, tr₁, tr₂, tried, last, rfl⟩
  · exact absurd tried not_ends_tryStore_error
  · rcases ends_tryStore.mp tried with ⟨now, reply', effect, eq, rfl⟩ | ⟨e, rfl, eq, rfl⟩
    · cases eq
      rcases Store.enqueue_cases p.batch s with ⟨refused, -⟩ | ⟨-, shown, added, shows⟩
      · exact absurd accepted refused
      · cases added.symm.trans effect
        obtain rfl := last.store_eq (lookup shown)
        refine .inr ⟨shown, rfl, shows, fun token call reply mem => ?_, ?_⟩
        · rcases List.mem_cons.mp mem with impossible | later
          · cases impossible
          · exact last.asked (lookup shown) later
        · rintro result rfl
          obtain ⟨y, s₂, tr₃, tr₄, reloaded, done, rfl⟩ := ends_bind_ok.mp last
          obtain ⟨now', effect', rfl⟩ := ends_store_ok.mp (ends_stage_ok.mp reloaded)
          obtain ⟨rfl, eq, rfl⟩ := ends_pure.mp done
          cases eq
          exact ⟨rfl, congrArg Prod.fst effect'⟩
    · cases eq
      rcases ends_bind.mp last with ⟨e', failing, rfl⟩ | ⟨_, s₂, tr₃, tr₄, failing, done, rfl⟩
      · exact .inl ⟨_, _, _, by simp, failing, _, rfl⟩
      · rcases ends_stage.mp done with ⟨_, failed, -⟩ | ⟨e', failed, refused⟩
        · obtain ⟨-, impossible, -⟩ := ends_fail.mp failed
          cases impossible
        · obtain ⟨rfl, -, rfl⟩ := ends_fail.mp failed
          exact .inl ⟨_, _, _, by simp, failing, _, refused⟩

/-- Putting runs on the queue **fails** only with the store: when they are to be put there, and then
they are to fail, or when the submission is to be shown, and then they are there already. -/
theorem lineUp_error {p : Picked} {e : OperationError} (h : (lineUp p).Ends s tr (.error e) s')
    (whole : s.Integrity) (accepted : s.AcceptsBatch p.batch)
    (recorded : p.submission.id ∈ s.submissions.map (·.id)) :
    (∃ cause message tr' done, tr = .fault (.enqueue p.batch) cause :: tr' ∧
      (failRuns message p.runs).Ends s tr' done s') ∨
    s' = s.queueing p.batch ∧ ∃ shown cause, tr = [.store (.enqueue p.batch) (.ok shown),
      .fault (.getSubmission p.submission.id) cause] := by
  rcases ends_bind.mp h with ⟨e', impossible, -⟩ | ⟨reply, s₁, tr₁, tr₂, tried, last, rfl⟩
  · exact absurd impossible not_ends_tryStore_error
  · rcases ends_tryStore.mp tried with ⟨now, reply', effect, eq, rfl⟩ | ⟨cause, rfl, eq, rfl⟩
    · cases eq
      rcases Store.enqueue_cases p.batch s with ⟨refused, -⟩ | ⟨-, shown, added, -⟩
      · exact absurd accepted refused
      · cases added.symm.trans effect
        obtain ⟨x, known, same⟩ := List.mem_map.mp recorded
        obtain ⟨base, head, -, found⟩ := (whole.queueing accepted).submission_shown known
        rw [same] at found
        rcases ends_bind.mp last with ⟨e', reloading, -⟩ | ⟨y, s₂, tr₃, tr₄, -, done, rfl⟩
        · obtain ⟨cause', shows, -⟩ := ends_stage_error.mp reloading
          obtain ⟨cause, -, ⟨now', effect', -⟩ | ⟨rfl, rfl⟩⟩ := ends_store_error.mp shows
          · cases found.symm.trans (congrArg Prod.fst effect')
          · exact .inr ⟨rfl, shown, cause, rfl⟩
        · obtain ⟨-, impossible, -⟩ := ends_pure.mp done
          cases impossible
    · cases eq
      rcases ends_bind.mp last with ⟨e', failing, -⟩ | ⟨_, s₂, tr₃, tr₄, failing, done, rfl⟩
      · exact .inl ⟨cause, _, tr₂, _, rfl, failing⟩
      · obtain ⟨cause', failed, -⟩ := ends_stage_error.mp done
        obtain ⟨rfl, -, rfl⟩ := ends_fail.mp failed
        exact .inl ⟨cause, _, tr₃, _, by simp, failing⟩

/-- What starting a submission **comes to** in the end. -/
inductive Started (r : Resolved) (s : Store) (tr : Trace) (res : Except OperationError Submitted)
    (s' : Store) : Prop
  /-- Nothing was recorded. -/
  | nothing (e : OperationError) (failed : res = .error e) (same : s' = s)
  /-- The submission was recorded, but not all of its work. -/
  | part (now : Timestamp) (ts : List Task) (rs : List Run) (e : OperationError)
      (failed : res = .error e) (fresh : Store.FreshWork ts rs)
      (added : s' = (s.addSubmission now (record r)).addWork ts rs) (whole : s'.Integrity)
      (none : tr.Faultless → r.parent.id ∈ s.repositories.map (·.id) → ts = [] ∧ rs = [])
  /-- All was recorded, but the store failed when the runs were to be put on the queue. -/
  | stuck (now : Timestamp) (ts : List Task) (rs : List Run) (message : String) (tr' : Trace)
      (done : Except OperationError Unit) (faulty : ¬ tr.Faultless) (fresh : Store.FreshWork ts rs)
      (whole : ((s.addSubmission now (record r)).addWork ts rs).Integrity)
      (failing : (failRuns message rs).Ends ((s.addSubmission now (record r)).addWork ts rs) tr'
        done s')
  /-- All was recorded and put on the queue. -/
  | queued (now : Timestamp) (picked : Picked) (selected : List String)
      (loaded : Dictionary TaskSettings) (created : List (Task × List Run))
      (shown : List QueueItem) (fresh : Store.FreshWork picked.tasks picked.runs)
      (whole : ((s.addSubmission now (record r)).addWork picked.tasks picked.runs).Integrity)
      (own : picked.submission.id = (s.newSubmission now (record r)).id)
      (picks : Picks r tr picked selected loaded created)
      (added : s' = ((s.addSubmission now (record r)).addWork picked.tasks picked.runs).queueing
        picked.batch)
      (shows : s'.Shows (Store.newItems s.nextPosition picked.batch) shown)
      (answered : ∀ result, res = .ok result → result.items = shown ∧
        s'.submission picked.submission.id = .ok result.submission)

/-- Starting a submission comes to **one of these ends**. -/
theorem start_ends {res : Except OperationError Submitted}
    (h : (start limit r).Ends s tr res s') (whole : s.Integrity) : Started r s tr res s' := by
  rw [start_eq] at h
  rcases ends_bind.mp h with ⟨e, staged, rfl⟩ | ⟨picked, s₁, tr₁, tr₂, staged, rest, rfl⟩
  · obtain ⟨cause, picking, -⟩ := ends_stage_error.mp staged
    rcases pick_ends picking with
      ⟨-, rfl⟩ | ⟨now, ts, rs, rfl, fresh, ⟨_, _, _, _, impossible, -⟩ | ⟨-, none⟩⟩
    · exact .nothing e rfl rfl
    · cases impossible
    · exact .part now ts rs e rfl fresh rfl (picking.integrity whole) none
  · have picking := ends_stage_ok.mp staged
    have whole₁ := picking.integrity whole
    rcases pick_ends picking with ⟨⟨e, impossible⟩, -⟩ |
      ⟨now, ts, rs, rfl, fresh, ⟨x, selected, loaded, created, eq, own, picks⟩ |
        ⟨⟨e, impossible⟩, -⟩⟩
    · cases impossible
    · cases eq
      have accepted := Store.acceptsBatch_addWork whole₁ whole.itemRun (·.settings.queue)
      rcases lineUp_ends rest accepted with
        ⟨message, tr', done, faulty, failing, -⟩ | ⟨shown, rfl, shows, silent, answered⟩
      · refine .stuck now ts rs message tr' done (fun faultless => ?_) fresh whole₁ failing
        exact faulty (Trace.faultless_append.mp faultless).2
      · exact .queued now ⟨x, ts, rs⟩ selected loaded created shown fresh whole₁ own
          (picks.append fun dir reply => silent _ _ _) rfl shows answered
    · cases impossible

/-- Starting a submission **with success** has picked runs and put them on the queue. -/
theorem start_ok {result : Submitted} (h : (start limit r).Ends s tr (.ok result) s')
    (whole : s.Integrity) : ∃ now picked selected loaded created,
      Picks r tr picked selected loaded created ∧
      s' = ((s.addSubmission now (record r)).addWork picked.tasks picked.runs).queueing
        picked.batch := by
  rw [start_eq] at h
  obtain ⟨picked, s₁, tr₁, tr₂, staged, rest, rfl⟩ := ends_bind_ok.mp h
  have picking := ends_stage_ok.mp staged
  have whole₁ := picking.integrity whole
  rcases pick_ends picking with ⟨⟨e, impossible⟩, -⟩ |
    ⟨now, ts, rs, rfl, fresh, ⟨x, selected, loaded, created, eq, own, picks⟩ | ⟨⟨e, impossible⟩, -⟩⟩
  · cases impossible
  · cases eq
    have accepted := Store.acceptsBatch_addWork whole₁ whole.itemRun (·.settings.queue)
    rcases lineUp_ends rest accepted with
      ⟨-, -, -, -, -, e, impossible⟩ | ⟨shown, rfl, -, silent, -⟩
    · cases impossible
    · exact ⟨now, ⟨x, ts, rs⟩, selected, loaded, created,
        picks.append fun dir reply => silent _ _ _, rfl⟩
  · cases impossible

/-- How starting a submission **fails**. -/
inductive StartFails (limit : Nat) (r : Resolved) (s : Store) (tr : Trace) (e : OperationError)
    (s' : Store) : Prop
  /-- Picking fails. -/
  | picking (cause : OperationError) (named : e = cause.inStage "picking tasks")
      (fails : (pick limit r).Ends s tr (.error cause) s')
  /-- The store fails when the picked runs are to be put on the queue, and they are to fail. -/
  | queueing (now : Timestamp) (picked : Picked) (tr₁ tr₂ : Trace) (cause : StoreError)
      (message : String) (done : Except OperationError Unit)
      (fresh : Store.FreshWork picked.tasks picked.runs)
      (picks : (pick limit r).Ends s tr₁ (.ok picked)
        ((s.addSubmission now (record r)).addWork picked.tasks picked.runs))
      (split : tr = tr₁ ++ .fault (.enqueue picked.batch) cause :: tr₂)
      (failing : (failRuns message picked.runs).Ends
        ((s.addSubmission now (record r)).addWork picked.tasks picked.runs) tr₂ done s')
  /-- The picked runs are on the queue, and the store fails when the submission is to be shown. -/
  | showing (now : Timestamp) (picked : Picked) (tr₁ : Trace) (shown : List QueueItem)
      (cause : StoreError) (fresh : Store.FreshWork picked.tasks picked.runs)
      (picks : (pick limit r).Ends s tr₁ (.ok picked)
        ((s.addSubmission now (record r)).addWork picked.tasks picked.runs))
      (split : tr = tr₁ ++ [.store (.enqueue picked.batch) (.ok shown),
        .fault (.getSubmission picked.submission.id) cause])
      (queued : s' = ((s.addSubmission now (record r)).addWork picked.tasks picked.runs).queueing
        picked.batch)

/-- Starting a submission **fails** in one of these ways. -/
theorem start_error {e : OperationError} (h : (start limit r).Ends s tr (.error e) s')
    (whole : s.Integrity) : StartFails limit r s tr e s' := by
  rw [start_eq] at h
  rcases ends_bind.mp h with ⟨e', staged, eq⟩ | ⟨picked, s₁, tr₁, tr₂, staged, rest, rfl⟩
  · cases eq
    obtain ⟨cause, fails, named⟩ := ends_stage_error.mp staged
    exact .picking cause named fails
  · have picks := ends_stage_ok.mp staged
    have whole₁ := picks.integrity whole
    rcases pick_ends picks with ⟨⟨e', impossible⟩, -⟩ |
      ⟨now, ts, rs, rfl, fresh, ⟨x, selected, loaded, created, eq, own, -⟩ | ⟨⟨e', impossible⟩, -⟩⟩
    · cases impossible
    · cases eq
      have accepted := Store.acceptsBatch_addWork whole₁ whole.itemRun (·.settings.queue)
      have recorded : x.id ∈ (s.addSubmission now (record r)).submissions.map (·.id) := by
        rw [own]
        simp [Store.addSubmission]
      rcases lineUp_error rest whole₁ accepted recorded with
        ⟨cause, message, tr', done, rfl, failing⟩ | ⟨rfl, shown, cause, rfl⟩
      · exact .queueing now ⟨x, ts, rs⟩ tr₁ tr' cause message done fresh picks rfl failing
      · exact .showing now ⟨x, ts, rs⟩ tr₁ shown cause fresh picks rfl rfl
    · cases impossible

/-- Whatever happens when a submission is started, tasks, runs and queue items **agree**
afterwards. -/
theorem start_coherent {res : Except OperationError Submitted}
    (h : (start limit r).Ends s tr res s') (whole : s.Integrity) (holds : s.Coherent) :
    s'.Coherent := by
  have recorded (now : Timestamp) : (s.addSubmission now (record r)).Coherent :=
    ⟨holds.tasks, holds.runs, holds.items⟩
  have worked {now : Timestamp} {ts : List Task} {rs : List Run} (fresh : Store.FreshWork ts rs)
      (whole' : ((s.addSubmission now (record r)).addWork ts rs).Integrity) :
      ((s.addSubmission now (record r)).addWork ts rs).Coherent :=
    (recorded now).addWork whole' whole.runTask fresh.1 fresh.2
  cases start_ends h whole with
  | nothing e failed same =>
      rw [same]
      exact holds
  | part now ts rs e failed fresh added whole' none =>
      rw [added] at whole' ⊢
      exact worked fresh whole'
  | stuck now ts rs message tr' done faulty fresh whole' failing =>
      exact failing.coherent (Q := fun _ => True) (calls_failRuns message rs) whole'
        (worked fresh whole')
  | queued now picked selected loaded created shown fresh whole' own picks added shows answered =>
      rw [added]
      refine (worked fresh whole').queueing
        (List.forall_mem_map.mpr fun run mem q memRun same => ?_)
      obtain rfl : q = run := whole'.eq_of_run_id memRun (List.mem_append_right _ mem) same
      exact (fresh.2 q mem).1.status

/-- Where the store does not fail, every run **is accounted for** after a submission was
started. -/
theorem start_accounted {res : Except OperationError Submitted}
    (h : (start limit r).Ends s tr res s') (faultless : tr.Faultless) (whole : s.Integrity)
    (parent : r.parent ∈ s.repositories) (holds : s.Accounted) : s'.Accounted := by
  have recorded (now : Timestamp) : (s.addSubmission now (record r)).Accounted :=
    ⟨holds.queued, holds.tallies, holds.started⟩
  cases start_ends h whole with
  | nothing e failed same =>
      rw [same]
      exact holds
  | part now ts rs e failed fresh added whole' none =>
      obtain ⟨rfl, rfl⟩ := none faultless (List.mem_map_of_mem parent)
      rw [added, Store.addWork_nil]
      exact recorded now
  | stuck now ts rs message tr' done faulty fresh whole' failing => exact absurd faultless faulty
  | queued now picked selected loaded created shown fresh whole' own picks added shows answered =>
      rw [added, Picked.batch_eq fun r mem => whole'.run_queue (List.mem_append_right _ mem)]
      exact (recorded now).start whole' whole.itemRun whole.runTask fresh

/-! ### Resolving and starting -/

/-- What **resolving** does where the store does not fail: repositories and refs are registered,
and then the unfinished work for the head ref is canceled, unless that is the main branch of the
fork. -/
structure Resolves (request : SubmissionRequest) (r : Resolved) (s s₁ s' : Store) : Prop where
  registered : s.Registered s₁
  found : r.Found s'
  cancels : Store.Cancels (if r.head.name = r.forkMainBranch then []
    else (s₁.openForRef r.fork.id r.head.name).map (·.id)) s₁ s'
  pullRequest : r.ticket = request.pullRequest
  /-- Between registering and canceling. -/
  whole : s₁.Integrity
  coherent : s.Coherent → s₁.Coherent

theorem resolve_faultless {request : SubmissionRequest}
    (h : (Resolution.resolve request).Ends s tr (.ok r) s') (faultless : tr.Faultless)
    (whole : s.Integrity) : ∃ s₁, Resolves request r s s₁ s' := by
  obtain ⟨main, headSha, canceled, s₁, tr₁, tr₂, tr₃, surveyed, canceling, rfl⟩ :=
    Resolution.resolve_ends_ok h
  obtain ⟨known, registered, rfl, pullRequest⟩ := Resolution.survey_ok surveyed
  have whole₁ := surveyed.integrity whole
  simp only [Trace.faultless_append] at faultless
  obtain ⟨-, cancels⟩ :=
    (Cancellation.ref_ensures whole₁ _ _ _).of_ends canceling faultless.2.1
  obtain ⟨-, repositories, refs, -, -⟩ := cancels.others
  refine ⟨s₁, registered, ⟨?_, ?_, ?_, ?_, known.headRepository, known.baseRepository⟩, cancels,
    pullRequest, whole₁, fun holds => ?_⟩
  · rw [repositories]
    exact known.parent
  · rw [repositories]
    exact known.fork
  · rw [refs]
    exact known.head
  · rw [refs]
    exact known.base
  · exact surveyed.coherent ((Resolution.asks_survey request).calls.mono
      (fun _ registers => registers.addsNoWork) fun _ => id) whole holds

/-- Taking in what **has been resolved**; what fails to start is noticed. -/
def launch (limit : Nat) (r : Resolved) : Operation Submitted := do
  match ← attempt (start limit r) with
  | .ok submitted => return submitted
  | .error e =>
    notify (notStarted r e)
    fail e

theorem submit_launch (limit : Nat) (request : SubmissionRequest) :
    submit limit request =
      stage "processing submission" (Resolution.resolve request) >>= launch limit := rfl

/-- What has been resolved is started, and if that fails, there is **one notification** more. -/
theorem launch_ends {res : Except OperationError Submitted}
    (h : (launch limit r).Ends s tr res s') : ∃ tr₁, (start limit r).Ends s tr₁ res s' ∧
      ((∃ submitted, res = .ok submitted) ∧ tr = tr₁ ∨
        ∃ e, res = .error e ∧ tr = tr₁ ++ [.notice (notStarted r e)]) := by
  rcases ends_bind.mp h with ⟨e, impossible, -⟩ | ⟨outcome, s₁, tr₁, tr₂, attempted, last, rfl⟩
  · exact absurd impossible not_ends_attempt_error
  · have started := ends_attempt_ok.mp attempted
    cases outcome with
    | ok submitted =>
        obtain ⟨rfl, rfl, rfl⟩ := ends_pure.mp last
        exact ⟨tr₁, started, .inl ⟨⟨submitted, rfl⟩, by simp⟩⟩
    | error e =>
        rcases ends_bind.mp last with ⟨e', impossible, -⟩ | ⟨_, s₂, tr₃, tr₄, noticed, failed, rfl⟩
        · exact absurd impossible not_ends_notify_error
        · obtain ⟨rfl, -, rfl⟩ := ends_notify.mp noticed
          obtain ⟨rfl, rfl, rfl⟩ := ends_fail.mp failed
          exact ⟨tr₁, started, .inr ⟨e, rfl, rfl⟩⟩

/-- Taking a **submission** in is resolving it and starting it; what fails to start is noticed. -/
theorem submit_ends {request : SubmissionRequest} {res : Except OperationError Submitted}
    (h : (submit limit request).Ends s tr res s') :
    (∃ cause, (Resolution.resolve request).Ends s tr (.error cause) s' ∧
      res = .error (cause.inStage "processing submission")) ∨
    ∃ r s₁ tr₁ tr₂ tr₃, (Resolution.resolve request).Ends s tr₁ (.ok r) s₁ ∧
      (start limit r).Ends s₁ tr₂ res s' ∧ tr = tr₁ ++ (tr₂ ++ tr₃) ∧
      ∀ token call reply, Event.host token call reply ∉ tr₃ := by
  rw [submit_launch] at h
  rcases ends_bind.mp h with ⟨e, staged, rfl⟩ | ⟨r, s₁, tr₁, tr₂, staged, rest, rfl⟩
  · obtain ⟨cause, failed, rfl⟩ := ends_stage_error.mp staged
    exact .inl ⟨cause, failed, rfl⟩
  · have resolved := ends_stage_ok.mp staged
    obtain ⟨tr₃, started, ⟨-, rfl⟩ | ⟨e, -, rfl⟩⟩ := launch_ends rest
    · exact .inr ⟨r, s₁, tr₁, tr₂, [], resolved, started, by simp, by simp⟩
    · exact .inr ⟨r, s₁, tr₁, tr₃, _, resolved, started, rfl, by simp⟩

/-- Tasks, runs and queue items **agree** after a submission was taken in. -/
theorem submit_coherent {request : SubmissionRequest} {res : Except OperationError Submitted}
    (h : (submit limit request).Ends s tr res s') (whole : s.Integrity) (holds : s.Coherent) :
    s'.Coherent := by
  rcases submit_ends h with ⟨cause, failed, -⟩ | ⟨r, s₁, tr₁, tr₂, tr₃, resolved, started, -, -⟩
  · exact failed.coherent (Resolution.calls_resolve request) whole holds
  · exact start_coherent started (resolved.integrity whole)
      (resolved.coherent (Resolution.calls_resolve request) whole holds)

/-- Where the store does not fail, every run **is accounted for** after a submission was taken
in. -/
theorem submit_accounted {request : SubmissionRequest} {res : Except OperationError Submitted}
    (h : (submit limit request).Ends s tr res s') (faultless : tr.Faultless) (whole : s.Integrity)
    (holds : s.Accounted) : s'.Accounted := by
  rcases submit_ends h with ⟨cause, failed, -⟩ | ⟨r, s₁, tr₁, tr₂, tr₃, resolved, started, rfl, -⟩
  · exact failed.accounted (Resolution.calls_resolve request) whole holds
  · simp only [Trace.faultless_append] at faultless
    obtain ⟨s₂, resolves⟩ := resolve_faultless resolved faultless.1 whole
    exact start_accounted started faultless.2.1 (resolved.integrity whole) resolves.found.parent
      (resolved.accounted (Resolution.calls_resolve request) whole holds)

end Intake

end Dispatch
