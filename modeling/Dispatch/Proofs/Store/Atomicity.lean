import Dispatch.Proofs.Queue.Claims

/-!
# Failures leave no trace

Some operations of the store write first and look a record up afterwards: a submission is read back
with its refs, a claimed item with its run, and the end of a run is summed up for its task. If that
record were missing, the operation would fail with half of its work done. The integrity of the
store is what rules it out, so a call that fails has changed nothing.

## Main definitions

* `Store.Sound`: the integrity of a store, and what those who call it may rely on because of it.

## Main results

* `Store.Integrity.submission_shown`, `Store.Integrity.target_found` and others: what a record
  refers to is found whenever it is read.
* `StoreCall.run_atomic`: a call that fails leaves the store as it was.
* `Store.after_sound`: every store is sound after any calls.
-/

namespace Dispatch

/-- A stored submission with its refs, as it is **shown**. -/
def StoredSubmission.withRefs (x : StoredSubmission) (s : Store) (base : Ref)
    (head : Option Ref) : Submission where
  id := x.id
  base := base
  head := head
  submittedBy := x.submittedBy
  ticket := x.ticket
  createdAt := x.createdAt
  tasks := (s.tasksOf x.id).length
  runs := s.countRuns x.id

namespace Store

/-- The refs that a stored submission **refers to**. -/
structure RefersTo (s : Store) (x : StoredSubmission) (base : Ref) (head : Option Ref) : Prop where
  knownBase : base ∈ s.refs
  knownHead : ∀ ref, head = some ref → ref ∈ s.refs
  sameBase : base.id = x.base
  sameHead : head.map (·.id) = x.head

/-- One of them is under test. -/
theorem RefersTo.tested {s : Store} {x : StoredSubmission} {base : Ref} {head : Option Ref}
    (h : s.RefersTo x base head) : (x.withRefs s base head).tested ∈ s.refs ∧
      (x.withRefs s base head).tested.id = x.tested := by
  rw [Submission.tested, StoredSubmission.tested, ← h.sameHead]
  cases head with
  | none => exact ⟨h.knownBase, h.sameBase⟩
  | some ref => exact ⟨h.knownHead ref rfl, rfl⟩

theorem submission_eq {s : Store} {x : StoredSubmission} {base : Ref} {head : Option Ref}
    (stored : s.submission? x.id = some x) (baseFound : s.ref x.base = .ok base)
    (headFound : x.head.mapM s.ref = .ok head) :
    s.submission x.id = .ok (x.withRefs s base head) := by
  rw [submission, expect_eq_ok.mpr stored]
  change (do
    let base ← s.ref x.base
    let head ← x.head.mapM s.ref
    return x.withRefs s base head) = Except.ok (x.withRefs s base head)
  rw [baseFound, headFound]
  rfl

theorem target_eq {s : Store} {id : Id} {t : Task} {repository : Repository} {x : Submission}
    (task : s.task id = .ok t) (found : s.repository t.repository = .ok repository)
    (shown : s.submission t.submission = .ok x) :
    s.target id = .ok ⟨repository, repository.owner.bind s.user?, x.tested.sha⟩ := by
  rw [target, task]
  change (do
    let repository ← s.repository t.repository
    let x ← s.submission t.submission
    return (⟨repository, repository.owner.bind s.user?, x.tested.sha⟩ : TaskTarget)) = _
  rw [found, shown]
  rfl

/-! ### Reading what is there -/

/-- The items of all repositories or of one are **on the queue**, in their order. -/
theorem items_sublist (s : Store) (repository : Option Id) :
    (s.items repository).Sublist s.queue := by
  cases repository with
  | none => exact .refl _
  | some id => exact List.filter_sublist

namespace Integrity

variable {s : Store}

/-- A ref that is referred to is found. -/
theorem ref_found (h : s.Integrity) {id : Id} (known : id ∈ s.refs.map (·.id)) :
    ∃ ref ∈ s.refs, ref.id = id ∧ s.ref id = .ok ref := by
  obtain ⟨ref, mem, rfl⟩ := List.mem_map.mp known
  exact ⟨ref, mem, rfl, expect_eq_ok.mpr (h.ref?_eq_some.mpr ⟨mem, rfl⟩)⟩

/-- A **submission** that is there is shown with the refs that it refers to. -/
theorem submission_shown (h : s.Integrity) {x : StoredSubmission} (known : x ∈ s.submissions) :
    ∃ base head, s.RefersTo x base head ∧
      s.submission x.id = .ok (x.withRefs s base head) := by
  have stored : s.submission? x.id = some x := h.submission?_eq_some.mpr ⟨known, rfl⟩
  obtain ⟨base, mem, same, baseFound⟩ := h.ref_found (h.submissionBase x known)
  cases head : x.head with
  | none =>
      have headFound : x.head.mapM s.ref = .ok none := by
        rw [head]
        rfl
      exact ⟨base, none, ⟨mem, by simp, same, head.symm⟩, submission_eq stored baseFound headFound⟩
  | some id =>
      obtain ⟨ref, memHead, sameHead, found⟩ := h.ref_found (h.submissionHead x known id head)
      have headFound : x.head.mapM s.ref = .ok (some ref) := by
        rw [head]
        change (do let ref ← s.ref id; return some ref) = Except.ok (some ref)
        rw [found]
        rfl
      refine ⟨base, some ref, ⟨mem, ?_, same, ?_⟩, submission_eq stored baseFound headFound⟩
      · rintro _ ⟨⟩
        exact memHead
      · rw [head, Option.map_some, sameHead]

/-- The **target** of a task that is there is found: its repository with the owner, and the commit
that its submission tests. -/
theorem target_found (h : s.Integrity) {t : Task} (known : t ∈ s.tasks) :
    ∃ repository ∈ s.repositories, ∃ x ∈ s.submissions, ∃ ref ∈ s.refs,
      repository.id = t.repository ∧ x.id = t.submission ∧ ref.id = x.tested ∧
        s.target t.id = .ok ⟨repository, repository.owner.bind s.user?, ref.sha⟩ := by
  obtain ⟨repository, mem, same⟩ := List.mem_map.mp (h.taskRepository t known)
  obtain ⟨x, memStored, sameStored⟩ := List.mem_map.mp (h.taskSubmission t known)
  obtain ⟨base, head, refs, shown⟩ := h.submission_shown memStored
  rw [sameStored] at shown
  have task : s.task t.id = .ok t := expect_eq_ok.mpr (h.task?_eq_some.mpr ⟨known, rfl⟩)
  have found : s.repository t.repository = .ok repository :=
    expect_eq_ok.mpr (h.repository?_eq_some.mpr ⟨mem, same⟩)
  exact ⟨repository, mem, x, memStored, _, refs.tested.1, same, sameStored, refs.tested.2,
    target_eq task found shown⟩

/-- Items on the queue are **shown with their runs**. -/
theorem items_shown (h : s.Integrity) {items : List StoredItem}
    (queued : ∀ i ∈ items, i ∈ s.queue) :
    ∃ shown, items.mapM s.queueItem = .ok shown ∧ s.Shows items shown := by
  induction items with
  | nil => exact ⟨[], rfl, .nil⟩
  | cons i rest ih =>
      obtain ⟨first, queued⟩ := List.forall_mem_cons.mp queued
      obtain ⟨run, known, same⟩ := h.exists_run first
      have found : s.run? i.run = some run := h.run?_eq_some.mpr ⟨known, same⟩
      obtain ⟨shown, all, shows⟩ := ih queued
      refine ⟨i.withRun run :: shown, ?_, .cons ⟨run, found, rfl⟩ shows⟩
      rw [List.mapM_cons, queueItem_eq_ok.mpr ⟨run, found, rfl⟩, all]
      rfl

/-- So are the items on every **page** of the queue, where its offset can be computed. -/
theorem page_shown (h : s.Integrity) (repository : Option Id) (p : Page) :
    ∃ shown, s.page repository p = .ok shown ∧
      Option.Rel s.Shows (p.select (s.items repository)) shown := by
  rw [page, Page.select]
  cases p.offset with
  | none => exact ⟨none, rfl, .none⟩
  | some offset =>
      obtain ⟨shown, all, shows⟩ := h.items_shown fun i mem =>
        (s.items_sublist repository).mem (List.mem_of_mem_drop (List.mem_of_mem_take mem))
      refine ⟨some shown, ?_, .some shows⟩
      rw [Option.map_some, Option.mapM_some, all]
      rfl

end Integrity

end Store

/-! ### Calls that fail -/

/-- **A call that fails leaves the store as it was.** -/
theorem StoreCall.run_atomic {s : Store} (h : s.Integrity) (call : StoreCall) (now : Timestamp)
    {e : StoreError} (fails : (call.run now s).1 = .error e) : (call.run now s).2 = s := by
  have refused {e : StoreError} (run : call.run now s = (.error e, s)) :
      (call.run now s).2 = s := by rw [run]
  have answered {a : call.Reply} {s' : Store} (run : call.run now s = (.ok a, s')) :
      (call.run now s).2 = s := by
    rw [run] at fails
    cases fails
  cases call with
  | createUser username token =>
      rcases Store.createUser_cases now username token s with ⟨e, run⟩ | ⟨-, run⟩
      exacts [refused run, answered run]
  | createRepository new =>
      rcases Store.createRepository_cases now new s with ⟨e, run⟩ | ⟨-, -, run⟩
      exacts [refused run, answered run]
  | findOrCreateRef repository name sha =>
      rcases Store.findOrCreateRef_cases repository name sha s with
        ⟨e, run⟩ | ⟨known, -, run⟩ | ⟨-, -, -, run⟩
      exacts [refused run, answered run, answered run]
  | createSubmission new =>
      rcases Store.createSubmission_cases now new s with ⟨-, e, run⟩ | ⟨base, head, run⟩
      · exact refused run
      · -- The submission is read back with its refs from the store that it has been added to.
        have mem : s.newSubmission now new ∈ (s.addSubmission now new).submissions :=
          List.mem_append_right _ (List.mem_singleton_self _)
        obtain ⟨_, _, -, shown⟩ := (h.addSubmission base head).submission_shown mem
        rw [shown] at run
        exact answered run
  | createTask new =>
      rcases Store.createTask_cases now new s with ⟨-, e, run⟩ | ⟨-, run⟩
      exacts [refused run, answered run]
  | createRun new =>
      rcases Store.createRun_cases now new s with ⟨-, e, run⟩ | ⟨-, run⟩
      exacts [refused run, answered run]
  | cancelTask task =>
      rcases Store.cancelTask_cases now task s with ⟨-, _, run⟩ | ⟨_, -, -, _, run⟩ | ⟨_, -, -, run⟩
      exacts [refused run, refused run, answered run]
  | finishRun id status =>
      rcases Store.finishRun_cases now id status s with
        ⟨-, e, run⟩ | ⟨r, found, -, ⟨missing, -⟩ | ⟨_, -, -, run⟩ | ⟨_, _, -, -, -, run⟩⟩
      · exact refused run
      · obtain ⟨t, mem, same⟩ := h.exists_task (h.run?_eq_some.mp found).1
        cases missing.symm.trans (h.task?_eq_some.mpr ⟨mem, same⟩)
      · exact answered run
      · exact answered run
  | enqueue batch =>
      rcases Store.enqueue_cases batch s with ⟨-, e, run⟩ | ⟨-, shown, run, -⟩
      exacts [refused run, answered run]
  | dequeue queue worker =>
      rcases h.dequeue_ends now queue worker with ⟨-, _, run⟩ | ⟨_, _, _, -, -, run⟩
      exacts [refused run, answered run]
  | _ => rfl

/-! ### Sound stores -/

namespace Store

/-- A store is **sound**: it has integrity, what is there can be read, and failures leave no
trace. -/
structure Sound (s : Store) : Prop where
  whole : s.Integrity
  /-- A submission that is there is shown with its refs. -/
  submission : ∀ x ∈ s.submissions, ∃ base head, s.RefersTo x base head ∧
    s.submission x.id = .ok (x.withRefs s base head)
  /-- A task that is there has a target. -/
  target : ∀ t ∈ s.tasks, ∃ repository ∈ s.repositories, ∃ x ∈ s.submissions, ∃ ref ∈ s.refs,
    repository.id = t.repository ∧ x.id = t.submission ∧ ref.id = x.tested ∧
      s.target t.id = .ok ⟨repository, repository.owner.bind s.user?, ref.sha⟩
  /-- An item on the queue is shown with its run. -/
  item : ∀ i ∈ s.queue, ∃ run ∈ s.runs, run.id = i.run ∧ s.queueItem i = .ok (i.withRun run)
  /-- Reading a page of the queue never ends with an error, for all repositories or for any one:
  where its offset can be computed, the items on it are shown. -/
  page : ∀ repository p, ∃ shown, s.page repository p = .ok shown ∧
    Option.Rel s.Shows (p.select (s.items repository)) shown
  /-- A claim fails only because nothing waits on the queue. -/
  claim : ∀ now queue worker e, (dequeue now queue worker s).1 = .error e →
    s.waitingOn queue = [] ∧ ∃ subject, e = .notFound subject
  /-- A call that fails leaves the store as it is. -/
  atomic : ∀ call now e, (StoreCall.run now call s).1 = .error e →
    (StoreCall.run now call s).2 = s

/-- **Every store is sound** after any calls. -/
theorem after_sound (calls : List DueCall) : (empty.after calls).Sound := by
  have whole : (empty.after calls).Integrity := integrity_empty.after calls
  constructor
  case whole => exact whole
  case submission => exact fun x known => whole.submission_shown known
  case target => exact fun t known => whole.target_found known
  case item =>
    intro i queued
    obtain ⟨run, known, same⟩ := whole.exists_run queued
    have found := whole.run?_eq_some.mpr ⟨known, same⟩
    exact ⟨run, known, same, queueItem_eq_ok.mpr ⟨run, found, rfl⟩⟩
  case page => exact whole.page_shown
  case claim =>
    intro now queue worker e fails
    rcases whole.dequeue_ends now queue worker with
      ⟨nothingWaits, subject, run⟩ | ⟨_, _, _, -, -, run⟩
    · rw [run] at fails
      exact ⟨nothingWaits, subject, (Except.error.inj fails).symm⟩
    · rw [run] at fails
      cases fails
  case atomic => exact fun call now e fails => call.run_atomic whole now fails

end Store

end Dispatch
