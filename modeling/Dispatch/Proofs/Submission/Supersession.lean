import Dispatch.Proofs.History

/-!
# Which work a submission supersedes

A submission tests a ref. Unless that is the main branch of the fork, the unfinished work of
earlier submissions for a ref of the same name is canceled before any new work is added. Work for
other refs is left alone.

## Main definitions

* `Store.Tests`: a submission tests the given ref name of a repository.
* `Intake.Receives`: what starting a submission adds.
* `Intake.Supersedes`: the work for a ref name is canceled, except for that of the new submission.
* `Intake.Replaces`: how this comes about.

## Main results

* `Intake.submit_supersedes`: a submission supersedes the earlier work for its ref name and no
  other, and on the main branch of the fork it supersedes nothing.
-/

namespace Dispatch

namespace Store

variable {s s' : Store}

/-! ### What is tested -/

/-- The submission **tests** the ref name of the repository. -/
def Tests (s : Store) (repository : Id) (name : String) (submission : Id) : Prop :=
  ∃ ref, s.testedRef? submission = some ref ∧ ref.repository = repository ∧ ref.name = name

/-- The ref that a submission tests is there. -/
theorem Integrity.tested (h : s.Integrity) {x : StoredSubmission} (known : x ∈ s.submissions) :
    x.tested ∈ s.refs.map (·.id) := by
  rw [StoredSubmission.tested]
  cases head : x.head with
  | none => exact h.submissionBase x known
  | some id => exact h.submissionHead x known id head

theorem Integrity.testedRef?_eq_some (h : s.Integrity) {x : StoredSubmission}
    (known : x ∈ s.submissions) {ref : Ref} (knownRef : ref ∈ s.refs) (same : ref.id = x.tested) :
    s.testedRef? x.id = some ref := by
  rw [testedRef?, h.submission?_eq_some.mpr ⟨known, rfl⟩, Option.bind_eq_bind, Option.bind_some]
  exact h.ref?_eq_some.mpr ⟨knownRef, same⟩

/-- A submission **goes on testing** the same ref when more submissions and refs are added. -/
theorem Integrity.tests_iff (h : s.Integrity) (h' : s'.Integrity)
    (submissions : s.submissions <+: s'.submissions) (refs : s.refs <+: s'.refs)
    {submission : Id} (known : submission ∈ s.submissions.map (·.id)) {repository : Id}
    {name : String} :
    s'.Tests repository name submission ↔ s.Tests repository name submission := by
  obtain ⟨x, mem, rfl⟩ := List.mem_map.mp known
  obtain ⟨ref, memRef, same⟩ := List.mem_map.mp (h.tested mem)
  rw [Tests, Tests, h.testedRef?_eq_some mem memRef same,
    h'.testedRef?_eq_some (submissions.subset mem) (refs.subset memRef) same]

/-- The open tasks for a ref name are the **unfinished ones whose submission tests it**. -/
theorem openForRef_iff (unset : ∀ t ∈ s.tasks, t.isFinished = false → t.status = none) {t : Task}
    {repository : Id} {name : String} : t ∈ s.openForRef repository name ↔
      t ∈ s.tasks ∧ t.isFinished = false ∧ s.Tests repository name t.submission := by
  rw [openForRef, List.mem_filter]
  simp only [Bool.and_eq_true, Bool.not_eq_true', Option.any_eq_true, decide_eq_true_eq,
    Option.isNone_iff_eq_none]
  constructor
  · rintro ⟨known, ⟨-, unfinished⟩, tests⟩
    exact ⟨known, unfinished, tests⟩
  · rintro ⟨known, unfinished, tests⟩
    exact ⟨known, ⟨unset t known unfinished, unfinished⟩, tests⟩

theorem mem_openForRef (h : s.Integrity)
    (unset : ∀ t ∈ s.tasks, t.isFinished = false → t.status = none) {t : Task}
    (known : t ∈ s.tasks) {repository : Id} {name : String} :
    t.id ∈ (s.openForRef repository name).map (·.id) ↔
      t.isFinished = false ∧ s.Tests repository name t.submission := by
  have own : t.id ∈ (s.openForRef repository name).map (·.id) ↔
      t ∈ s.openForRef repository name := by
    refine ⟨fun mem => ?_, List.mem_map_of_mem⟩
    obtain ⟨u, memTask, same⟩ := List.mem_map.mp mem
    obtain rfl := h.eq_of_task_id (List.mem_of_mem_filter memTask) known same
    exact memTask
  rw [own, openForRef_iff unset]
  exact and_iff_right known

end Store

namespace Intake

open Operation Picking

variable {r : Resolved} {s s₁ s₂ s' : Store} {tr : Trace} {limit : Nat}
  {new : Option StoredSubmission}

/-! ### What starting adds -/

/-- The record of a resolved submission is for its head. -/
theorem record_tested (s : Store) (now : Timestamp) (r : Resolved) :
    (s.newSubmission now (record r)).tested = r.head.id := by
  change ((record r).head).getD (record r).base = r.head.id
  rw [record]
  by_cases same : r.head.id = r.base.id
  · rw [if_pos same]
    exact same.symm
  · rw [if_neg same]
    rfl

/-- What **starting** a submission adds: at most one submission for the head, and tasks of it with
runs and items of their own. Nothing else changes. -/
structure Receives (r : Resolved) (new : Option StoredSubmission) (s s' : Store) : Prop where
  refs : s'.refs = s.refs
  submissions : s'.submissions = s.submissions ++ new.toList
  tested : ∀ x ∈ new, x.tested = r.head.id
  tasks : ∃ ts, s'.tasks = s.tasks ++ ts ∧ ∀ t ∈ ts, ∃ x ∈ new, t.submission = x.id
  runs : s.runs <+: s'.runs
  queue : ∃ items, s'.queue = s.queue ++ items ∧ ∀ i ∈ items, i.run ∉ s.runs.map (·.id)

theorem start_receives {res : Except OperationError Submitted}
    (h : (start limit r).Ends s tr res s') (faultless : tr.Faultless) (whole : s.Integrity)
    (parent : r.parent ∈ s.repositories) : ∃ new, Receives r new s s' := by
  cases start_ends h whole with
  | nothing e failed same =>
      subst same
      exact ⟨none,
        { refs := rfl
          submissions := by simp
          tested := by simp
          tasks := ⟨[], by simp, by simp⟩
          runs := List.prefix_rfl
          queue := ⟨[], by simp, by simp⟩ }⟩
  | part now ts rs e failed fresh added whole' none =>
      obtain ⟨rfl, rfl⟩ := none faultless (List.mem_map_of_mem parent)
      rw [Store.addWork_nil] at added
      subst added
      exact ⟨some (s.newSubmission now (record r)),
        { refs := rfl
          submissions := rfl
          tested := by
            rintro _ ⟨⟩
            exact record_tested s now r
          tasks := ⟨[], (List.append_nil _).symm, by simp⟩
          runs := List.prefix_rfl
          queue := ⟨[], (List.append_nil _).symm, by simp⟩ }⟩
  | stuck now ts rs message tr' done faulty => exact absurd faultless faulty
  | queued now picked selected loaded created shown fresh whole' own picks added shows answered =>
      have apart := List.nodup_append'.mp (List.map_append ▸ whole'.runs.nodup)
      subst added
      exact ⟨some (s.newSubmission now (record r)),
        { refs := rfl
          submissions := rfl
          tested := by
            rintro _ ⟨⟩
            exact record_tested s now r
          tasks := by
            refine ⟨picked.tasks, rfl, ?_⟩
            intro t mem
            obtain ⟨entry, -, recorded⟩ := picks.recordedTasks.exists_of_mem_right mem
            exact ⟨_, rfl, recorded.submission.trans own⟩
          runs := List.prefix_append _ _
          queue := by
            refine ⟨Store.newItems s.nextPosition picked.batch, rfl, ?_⟩
            intro i mem known
            obtain ⟨item, memItem, eq, -⟩ := Store.mem_newItems mem
            obtain ⟨run, memRun, rfl⟩ := List.mem_map.mp memItem
            rw [eq] at known
            exact apart.2.2 known (List.mem_map_of_mem memRun) }⟩

/-! ### Superseding -/

/-- The new submission **supersedes** the earlier work for a ref name of a repository. -/
structure Supersedes (repository : Id) (name : String) (new : Option StoredSubmission)
    (s s' : Store) : Prop where
  /-- The unfinished tasks for the ref name are those of the new submission. -/
  only : ∀ t ∈ s'.tasks, t.isFinished = false → s'.Tests repository name t.submission →
    ∃ x ∈ new, t.submission = x.id
  /-- The earlier ones are canceled. -/
  tasks : ∀ t ∈ s.tasks, t.isFinished = false → s.Tests repository name t.submission →
    ∃ now, Store.endCanceled now t ∈ s'.tasks
  /-- Their open runs have failed and left the queue. -/
  runs : ∀ t ∈ s.tasks, t.isFinished = false → s.Tests repository name t.submission →
    ∀ q ∈ s.runs, q.task = t.id → q.status = none →
      (∃ now, Store.endRun now false q ∈ s'.runs) ∧ ∀ i ∈ s'.queue, i.run ≠ q.id
  /-- Tasks for another ref name, with their runs and items, stay as they were. -/
  otherTasks : ∀ t ∈ s.tasks, ¬ s.Tests repository name t.submission → t ∈ s'.tasks
  otherRuns : ∀ t ∈ s.tasks, ¬ s.Tests repository name t.submission →
    ∀ q ∈ s.runs, q.task = t.id → q ∈ s'.runs ∧ ∀ i ∈ s.queue, i.run = q.id → i ∈ s'.queue

/-- The open work for a ref name is canceled **before** new work is added: `s₁` differs from `s` in
what has been registered only, `s₂` is `s₁` after the cancellation. -/
structure Replaces (r : Resolved) (repository : Id) (name : String)
    (new : Option StoredSubmission) (s s₁ s₂ s' : Store) : Prop where
  whole : s.Integrity
  wholeThen : s₁.Integrity
  wholeAfter : s'.Integrity
  agrees : s₁.Coherent
  registered : s.Registered s₁
  cancels : s₁.Cancels ((s₁.openForRef repository name).map (·.id)) s₂
  receives : Receives r new s₂ s'

namespace Replaces

variable {repository : Id} {name : String} {t : Task} {q : Run}

/-- What an earlier submission tests is the same when work is canceled as it was before. -/
theorem tests_then (h : Replaces r repository name new s s₁ s₂ s') (known : t ∈ s.tasks) :
    s₁.Tests repository name t.submission ↔ s.Tests repository name t.submission :=
  h.whole.tests_iff h.wholeThen (h.registered.submissions ▸ List.prefix_rfl) h.registered.refs
    (h.whole.taskSubmission t known)

/-- And it is the same afterwards. -/
theorem tests_after (h : Replaces r repository name new s s₁ s₂ s') (known : t ∈ s₁.tasks) :
    s'.Tests repository name t.submission ↔ s₁.Tests repository name t.submission := by
  obtain ⟨-, -, refs, submissions, -⟩ := h.cancels.others
  have sameRefs : s'.refs = s₁.refs := h.receives.refs.trans refs
  refine h.wholeThen.tests_iff h.wholeAfter ?_ (sameRefs ▸ List.prefix_rfl)
    (h.wholeThen.taskSubmission t known)
  rw [h.receives.submissions, submissions]
  exact List.prefix_append _ _

/-- The tasks that are canceled are the unfinished ones for the ref name. -/
theorem mem_canceled (h : Replaces r repository name new s s₁ s₂ s') (known : t ∈ s.tasks) :
    t.id ∈ (s₁.openForRef repository name).map (·.id) ↔
      t.isFinished = false ∧ s.Tests repository name t.submission := by
  rw [← h.tests_then known]
  exact Store.mem_openForRef h.wholeThen h.agrees.unset (h.registered.tasks ▸ known)

/-- The tasks that are there after the cancellation stay. -/
theorem tasks_subset (h : Replaces r repository name new s s₁ s₂ s') (mem : t ∈ s₂.tasks) :
    t ∈ s'.tasks := by
  obtain ⟨ts, tasks, -⟩ := h.receives.tasks
  rw [tasks]
  exact List.mem_append_left _ mem

/-- What is unfinished for the ref name in the end is new. -/
theorem task_new (h : Replaces r repository name new s s₁ s₂ s') (mem : t ∈ s'.tasks)
    (unfinished : t.isFinished = false) (tests : s'.Tests repository name t.submission) :
    ∃ x ∈ new, t.submission = x.id := by
  obtain ⟨ts, tasks, own⟩ := h.receives.tasks
  rw [tasks] at mem
  rcases List.mem_append.mp mem with old | added
  · rcases h.cancels.task_cases h.wholeThen old with ⟨known, kept⟩ | ⟨u, -, -, now, rfl⟩
    · refine absurd ?_ kept
      refine (Store.mem_openForRef h.wholeThen h.agrees.unset known).mpr ⟨unfinished, ?_⟩
      exact (h.tests_after known).mp tests
    · cases unfinished
  · exact own t added

/-- The open runs of a canceled task fail and leave the queue, to which they do not return. -/
theorem run_failed (h : Replaces r repository name new s s₁ s₂ s') (known : t ∈ s.tasks)
    (unfinished : t.isFinished = false) (tests : s.Tests repository name t.submission)
    (knownRun : q ∈ s.runs) (task : q.task = t.id) (unended : q.status = none) :
    (∃ now, Store.endRun now false q ∈ s'.runs) ∧ ∀ i ∈ s'.queue, i.run ≠ q.id := by
  have canceled : q.task ∈ (s₁.openForRef repository name).map (·.id) := by
    rw [task]
    exact (h.mem_canceled known).mpr ⟨unfinished, tests⟩
  have knownThen : q ∈ s₁.runs := h.registered.runs ▸ knownRun
  obtain ⟨items, queue, fresh⟩ := h.receives.queue
  obtain ⟨now, failed⟩ := h.cancels.runs_of_mem knownThen canceled unended
  refine ⟨⟨now, h.receives.runs.subset failed⟩, fun i queued same => ?_⟩
  rw [queue] at queued
  rcases List.mem_append.mp queued with old | added
  · exact h.cancels.queue_of_mem knownThen canceled unended i old same
  · refine fresh i added ?_
    rw [same, h.cancels.runs_map_id]
    exact List.mem_map_of_mem knownThen

/-- A run of a task for another ref name stays, and so does its place on the queue. -/
theorem run_kept (h : Replaces r repository name new s s₁ s₂ s') (known : t ∈ s.tasks)
    (spared : ¬ s.Tests repository name t.submission) (knownRun : q ∈ s.runs)
    (task : q.task = t.id) : q ∈ s'.runs ∧ ∀ i ∈ s.queue, i.run = q.id → i ∈ s'.queue := by
  have kept : q.task ∉ (s₁.openForRef repository name).map (·.id) := by
    rw [task]
    exact fun canceled => spared ((h.mem_canceled known).mp canceled).2
  have knownThen : q ∈ s₁.runs := h.registered.runs ▸ knownRun
  have still := h.cancels.runs_of_notMem knownThen (.inl kept)
  refine ⟨h.receives.runs.subset still, ?_⟩
  intro i queued same
  have queuedThen : i ∈ s₁.queue := h.registered.queue ▸ queued
  have waits : i ∈ s₂.queue := by
    refine h.cancels.queue_of_notMem queuedThen ?_
    intro q' known' same'
    obtain rfl : q' = q := h.wholeThen.eq_of_run_id known' knownThen (same'.trans same)
    exact kept
  obtain ⟨items, queue, -⟩ := h.receives.queue
  rw [queue]
  exact List.mem_append_left _ waits

/-- Replacing the work for a ref name **is superseding** it. -/
theorem supersedes (h : Replaces r repository name new s s₁ s₂ s') :
    Supersedes repository name new s s' where
  only _ := h.task_new
  tasks t known unfinished tests := by
    obtain ⟨now, canceled⟩ := h.cancels.tasks_of_mem (h.registered.tasks ▸ known)
      ((h.mem_canceled known).mpr ⟨unfinished, tests⟩)
    exact ⟨now, h.tasks_subset canceled⟩
  runs _ known unfinished tests _ := h.run_failed known unfinished tests
  otherTasks t known spared := by
    refine h.tasks_subset (h.cancels.tasks_of_notMem (h.registered.tasks ▸ known) ?_)
    exact fun canceled => spared ((h.mem_canceled known).mp canceled).2
  otherRuns _ known spared _ := h.run_kept known spared

end Replaces

/-- **A submission supersedes** the earlier work for the name of its head ref, whatever becomes of
it after it has been resolved. On the main branch of the fork it leaves all earlier work alone. -/
theorem submit_supersedes {request : SubmissionRequest} {res : Except OperationError Submitted}
    (reachable : s.ReachableBy fun _ => True) (h : (submit limit request).Ends s tr res s')
    (faultless : tr.Faultless) :
    (∃ cause, (Resolution.resolve request).Ends s tr (.error cause) s' ∧
      res = .error (cause.inStage "processing submission")) ∨
    ∃ r s₂ tr₁ tr₂ new, (Resolution.resolve request).Ends s tr₁ (.ok r) s₂ ∧ tr = tr₁ ++ tr₂ ∧
      s'.submissions = s.submissions ++ Option.toList new ∧
      (∀ x ∈ new, s'.testedRef? x.id = some r.head) ∧
      (r.head.name ≠ r.forkMainBranch → Supersedes r.head.repository r.head.name new s s') ∧
      (r.head.name = r.forkMainBranch →
        s.tasks <+: s'.tasks ∧ s.runs <+: s'.runs ∧ s.queue <+: s'.queue) := by
  have whole := reachable.integrity
  have whole' := h.integrity whole
  rcases submit_ends h with failed | ⟨r, s₂, tr₁, tr₂, tr₃, resolved, started, rfl, -⟩
  · exact .inl failed
  · simp only [Trace.faultless_append] at faultless
    have whole₂ := resolved.integrity whole
    obtain ⟨s₁, resolves⟩ := resolve_faultless resolved faultless.1 whole
    obtain ⟨new, receives⟩ :=
      start_receives started faultless.2.1 whole₂ resolves.found.parent
    obtain ⟨-, -, -, submissions, -⟩ := resolves.cancels.others
    have cancels := resolves.cancels
    refine .inr ⟨r, s₂, tr₁, tr₂ ++ tr₃, new, resolved, rfl, ?_, fun x mem => ?_,
      fun other => ?_, fun same => ?_⟩
    · rw [receives.submissions, submissions, resolves.registered.submissions]
    · refine whole'.testedRef?_eq_some ?_ ?_ (receives.tested x mem).symm
      · rw [receives.submissions]
        exact List.mem_append_right _ (Option.mem_toList.mpr mem)
      · rw [receives.refs]
        exact resolves.found.head
    · rw [if_neg other, ← resolves.found.headRepository] at cancels
      exact Replaces.supersedes
        { whole
          wholeThen := resolves.whole
          wholeAfter := whole'
          agrees := resolves.coherent reachable.coherent
          registered := resolves.registered
          cancels
          receives }
    · rw [if_pos same] at cancels
      cases cancels
      obtain ⟨ts, tasks, -⟩ := receives.tasks
      obtain ⟨items, queue, -⟩ := receives.queue
      rw [← resolves.registered.tasks, ← resolves.registered.runs, ← resolves.registered.queue,
        tasks, queue]
      exact ⟨List.prefix_append _ _, receives.runs, List.prefix_append _ _⟩

/-- The next commit on a branch supersedes the task for the commit before it. -/
theorem submit_supersedes_sample : ∃ (repository : Id) (name : String)
    (new : Option StoredSubmission) (s s' : Store), s.tasks.map (·.canceled) = [false] ∧
      s'.tasks.map (·.canceled) = [true, false] ∧ Supersedes repository name new s s' := by
  obtain ⟨_, σ, submitted, rest⟩ := Session.exists_of_succeeds
    (Demand.submit 5 (Sample.request Sample.first)).operation Sample.session
    (fun _ σ => σ.store.tasks.map (·.canceled) = [false] &&
      Session.succeeds (submit 5 (Sample.request Sample.second)) σ fun _ σ =>
        σ.store.tasks.map (·.canceled) = [true, false]) (by decide +kernel)
  obtain ⟨before, rest⟩ := Bool.and_eq_true_iff.mp rest
  obtain ⟨result, σ', submitted', after⟩ := Session.exists_of_succeeds _ _ _ rest
  have before := of_decide_eq_true before
  have after := of_decide_eq_true after
  obtain ⟨reached, silent⟩ :=
    (Sample.reachable fun _ => True).perform rfl (fun _ _ => trivial) submitted
  obtain ⟨tr, ends, faultless⟩ := Session.perform_ends submitted'
  rcases submit_supersedes reached ends (faultless silent).2 with
    ⟨cause, -, impossible⟩ | ⟨r, s₂, tr₁, tr₂, new, -, -, -, -, superseded, spared⟩
  · cases impossible
  · refine ⟨r.head.repository, r.head.name, new, σ.store, σ'.store, before, after,
      superseded fun same => ?_⟩
    obtain ⟨ts, tasks⟩ := (spared same).1
    rw [← tasks, List.map_append, before] at after
    cases after

end Intake

end Dispatch
