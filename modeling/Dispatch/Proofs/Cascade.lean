import Dispatch.Proofs.Finality
import Dispatch.Proofs.Store.Atomicity
import Dispatch.Proofs.Submission.Supersession

/-!
# The cancellation cascade

Tasks are canceled for a ref, for a pull request, for a submission, for one of their runs, or by
themselves. Each of these selects tasks in its own way and then cancels one after the other, so
between the selection and its end the store changes several times. Still it hits exactly the tasks
that it is meant for, and leaves the store as if they had been canceled all at once.

## Main definitions

* `Store.cancelingAll`: the store in which some tasks have been canceled, each at its own time.
* `Store.CancelsAll`: exactly the tasks that are hit have been canceled and counted.
* `Operation.Strikes`: canceling hits exactly its tasks, and once more it hits none.
* `Store.CancelsOnDemand`: what the ways of canceling do in a store.

## Main results

* `Store.Cancels.eq`: canceling one task after the other comes to canceling them all at once.
* `Store.cancels_onDemand`: what the ways of canceling do after any calls to the store.
-/

namespace Dispatch

namespace Store

variable {s s' : Store} {ids : List Id}

/-! ### Many tasks at once -/

/-- The run is open, and its task is among the given ones. -/
def isStruck (ids : List Id) (r : Run) : Bool := ids.contains r.task && r.status.isNone

/-- The store in which tasks have been **canceled**, each at its own time: they are marked as
canceled, have failed and are finished; so are their open runs, which have left the queue. All else
is as it was. -/
def cancelingAll (s : Store) (times : Id → Timestamp) (ids : List Id) : Store :=
  { s with
    tasks := s.tasks.map fun t => if t.id ∈ ids then
      { t with canceled := true, status := some false, finishedAt := some (times t.id) } else t
    runs := s.runs.map fun r => if isStruck ids r then
      { r with status := some false, finishedAt := some (times r.task) } else r
    queue := s.queue.filter fun i => !(s.runs.any fun r => r.id = i.run && isStruck ids r) }

@[simp] theorem isStruck_nil (r : Run) : isStruck [] r = false := rfl

theorem isStruck_iff {r : Run} : isStruck ids r = true ↔ r.task ∈ ids ∧ r.status = none := by
  simp [isStruck]

theorem cancelingAll_nil (s : Store) (times : Id → Timestamp) : s.cancelingAll times [] = s := by
  have kept : s.queue.filter (fun i => !(s.runs.any fun r => r.id = i.run && isStruck [] r)) =
      s.queue := by simp
  rw [cancelingAll, kept]
  simp

theorem isStruck_cons (id : Id) (ids : List Id) (r : Run) :
    isStruck (id :: ids) r = (isOpenRunOf id r || isStruck ids r) := by
  rw [Bool.eq_iff_iff]
  simp [isStruck, isOpenRunOf, or_and_right]

/-- Canceling one more task **beforehand**. -/
theorem cancelingAll_cons (s : Store) (now : Timestamp) (times : Id → Timestamp) {id : Id}
    (fresh : id ∉ ids) : (s.canceling now id).cancelingAll times ids =
      s.cancelingAll (fun x => if x = id then now else times x) (id :: ids) := by
  have spared {r : Run} (isOpen : isOpenRunOf id r = true) : isStruck ids r = false := by
    simp only [isOpenRunOf, Bool.and_eq_true, decide_eq_true_eq] at isOpen
    simp [isStruck, isOpen.1, fresh]
  have struck (r : Run) : isStruck ids (if isOpenRunOf id r then endRun now false r else r) =
      isStruck ids r := by
    by_cases isOpen : isOpenRunOf id r
    · rw [if_pos isOpen, spared isOpen]
      simp [isStruck, endRun]
    · rw [if_neg isOpen]
  have sameId (r : Run) : (if isOpenRunOf id r then endRun now false r else r).id = r.id :=
    ((revises_canceling now id).run r).id
  rw [canceling_eq]
  simp only [cancelingAll, revise, List.map_map, List.map_id, List.filter_filter, List.any_map]
  congr 1
  · refine List.map_congr_left fun t _ => ?_
    by_cases own : t.id = id
    · simp [own, endCanceled, fresh]
    · simp [own]
  · refine List.map_congr_left fun r _ => ?_
    simp only [Function.comp, struck, isStruck_cons]
    by_cases isOpen : isOpenRunOf id r
    · have own : r.task = id := by simp_all [isOpenRunOf]
      simp [isOpen, spared isOpen, own, endRun]
    · by_cases isStruck : isStruck ids r
      · have other : r.task ≠ id := by
          rintro rfl
          exact fresh (isStruck_iff.mp isStruck).1
        simp [isOpen, isStruck, other]
      · simp [isOpen, isStruck]
  · refine List.filter_congr fun i _ => ?_
    rw [Bool.eq_iff_iff]
    simp only [Function.comp_def, struck, sameId, isStruck_cons]
    simp only [List.contains_eq_mem, List.mem_map, List.mem_filter, Bool.and_eq_true,
      Bool.not_eq_eq_eq_not, Bool.not_true, List.any_eq_false, decide_eq_true_eq, not_and,
      Bool.not_eq_true, decide_eq_false_iff_not, not_exists, and_imp, Bool.or_eq_true, not_or]
    constructor
    · rintro ⟨unstruck, closed⟩ r known own
      exact ⟨Bool.eq_false_iff.mpr fun isOpen => closed r known isOpen own, unstruck r known own⟩
    · intro spared'
      exact ⟨fun r known own => (spared' r known own).2, fun r known isOpen own =>
        Bool.eq_false_iff.mp (spared' r known own).1 isOpen⟩

theorem Cancels.eq (h : Cancels ids s s') : ∃ times, s' = s.cancelingAll times ids := by
  induction h with
  | nil s => exact ⟨fun _ => default, (cancelingAll_nil s _).symm⟩
  | @cons s s' t ids now known unfinished fresh rest ih =>
      obtain ⟨times, rfl⟩ := ih
      exact ⟨_, cancelingAll_cons s now times fresh⟩

/-- Canceling a single task. -/
theorem canceling_eq_cancelingAll (s : Store) (now : Timestamp) (id : Id) :
    s.canceling now id = s.cancelingAll (fun _ => now) [id] := by
  have one := cancelingAll_cons s now (fun _ => now) (List.not_mem_nil (a := id))
  simpa only [cancelingAll_nil, ite_self] using one

theorem cancelingAll_eq_revise (s : Store) (times : Id → Timestamp) (ids : List Id) :
    s.cancelingAll times ids = s.revise
      (fun t => if t.id ∈ ids then endCanceled (times t.id) t else t)
      (fun r => if isStruck ids r then endRun (times r.task) false r else r)
      (fun i => !(s.runs.any fun r => r.id = i.run && isStruck ids r)) id := by
  simp only [cancelingAll, revise, List.map_id]
  rfl

theorem Integrity.cancelingAll (h : s.Integrity) (times : Id → Timestamp) (ids : List Id) :
    (s.cancelingAll times ids).Integrity := by
  rw [cancelingAll_eq_revise]
  refine h.revise ⟨fun t => ?_, fun r => ?_, fun _ => ⟨rfl, rfl, rfl⟩⟩
  · split
    exacts [⟨rfl, rfl, rfl, rfl, rfl, rfl⟩, ⟨rfl, rfl, rfl, rfl, rfl, rfl⟩]
  · split
    exacts [⟨rfl, rfl, rfl, rfl⟩, ⟨rfl, rfl, rfl, rfl⟩]

/-- The tasks that are unfinished afterwards are the others, as they were. -/
theorem unfinished_cancelingAll {times : Id → Timestamp} {t : Task}
    (mem : t ∈ (s.cancelingAll times ids).tasks) (unfinished : t.isFinished = false) :
    t ∈ s.tasks ∧ t.id ∉ ids := by
  obtain ⟨u, known, rfl⟩ := List.mem_map.mp mem
  by_cases own : u.id ∈ ids
  · rw [if_pos own] at unfinished
    cases unfinished
  · rw [if_neg own]
    exact ⟨known, own⟩

theorem UntilFinished.cancelingAll {P : Task → Prop} (h : s.UntilFinished P)
    (times : Id → Timestamp) (ids : List Id) : (s.cancelingAll times ids).UntilFinished P :=
  fun t mem unfinished => h t (unfinished_cancelingAll mem unfinished).1 unfinished

/-! ### Hitting exactly some tasks -/

/-- **Exactly** the tasks that are hit have been canceled, and the answer is how many they are. -/
def CancelsAll (s : Store) (hit : Task → Prop) (res : Except OperationError Nat) (s' : Store) :
    Prop :=
  ∃ ids times, ids.Nodup ∧ (∀ id, id ∈ ids ↔ ∃ t ∈ s.tasks, t.id = id ∧ hit t) ∧
    res = .ok ids.length ∧ s' = s.cancelingAll times ids

/-- Where no task is hit, nothing happens. -/
theorem CancelsAll.none {hit : Task → Prop} {res : Except OperationError Nat}
    (h : s.CancelsAll hit res s') (missed : ∀ t ∈ s.tasks, ¬ hit t) : res = .ok 0 ∧ s' = s := by
  obtain ⟨ids, times, -, hits, rfl, rfl⟩ := h
  obtain rfl : ids = [] := by
    refine List.eq_nil_iff_forall_not_mem.mpr fun id mem => ?_
    obtain ⟨t, known, -, hit⟩ := (hits id).mp mem
    exact missed t known hit
  exact ⟨rfl, cancelingAll_nil s times⟩

/-! ### The unfinished tasks of a submission -/

/-- The **unfinished** tasks of a submission, in the order of their paths. -/
def unfinishedTasksOf (s : Store) (submission : Id) : List Task :=
  (s.tasksByPath submission).filter fun t => !t.isFinished

theorem mem_unfinishedTasksOf {submission : Id} {t : Task} :
    t ∈ s.unfinishedTasksOf submission ↔
      t ∈ s.tasks ∧ t.isFinished = false ∧ t.submission = submission := by
  rw [unfinishedTasksOf, List.mem_filter, tasksByPath, List.mem_mergeSort, tasksOf, List.mem_filter,
    decide_eq_true_eq, Bool.not_eq_true', and_assoc, and_comm (b := t.isFinished = false)]

theorem Integrity.unfinishedTasksOf (whole : s.Integrity) (submission : Id) :
    s.Unfinished (s.unfinishedTasksOf submission) where
  known t mem := (mem_unfinishedTasksOf.mp mem).1
  unfinished t mem := (mem_unfinishedTasksOf.mp mem).2.1
  distinct := by
    have sorted :=
      (List.mergeSort_perm (s.tasksOf submission) fun a b => a.path ≤ b.path).map (·.id)
    have all : ((s.tasksByPath submission).map (·.id)).Nodup :=
      sorted.nodup_iff.mpr (whole.tasks.nodup.sublist (List.filter_sublist.map _))
    exact all.sublist (List.filter_sublist.map _)

end Store

/-- Canceling **strikes** exactly the tasks that are hit, and once more it strikes none. -/
def Operation.Strikes (op : Operation Nat) (hit : Task → Prop) (s : Store) : Prop :=
  op.Ensures (fun res s' => s.CancelsAll hit res s' ∧ op.Rests (.ok 0) s') s

namespace Cancellation

open Operation

variable {s s' : Store}

/-- The tasks that have been canceled and counted are those that were **selected**. -/
theorem Counts.cancelsAll {l : List Task} {hit : Task → Prop} {res : Except OperationError Nat}
    (h : Counts s (l.map (·.id)) res s') (distinct : (l.map (·.id)).Nodup)
    (selected : ∀ t, t ∈ l ↔ t ∈ s.tasks ∧ hit t) : s.CancelsAll hit res s' := by
  obtain ⟨rfl, cancels⟩ := h
  obtain ⟨times, rfl⟩ := cancels.eq
  refine ⟨l.map (·.id), times, distinct, fun id => ?_, rfl, rfl⟩
  rw [List.mem_map]
  constructor
  · rintro ⟨t, mem, rfl⟩
    obtain ⟨known, hit⟩ := (selected t).mp mem
    exact ⟨t, known, rfl, hit⟩
  · rintro ⟨t, known, rfl, hit⟩
    exact ⟨t, (selected t).mpr ⟨known, hit⟩, rfl⟩

/-- What cancels exactly the unfinished tasks that are hit, and goes by what canceling does not
touch, hits **none of them again**. -/
theorem strikes_of_ensures {op : Operation Nat} (ready : Store → Prop)
    (hit : Store → Task → Prop) (unfinished : ∀ s t, hit s t → t.isFinished = false)
    (untouched : ∀ s times ids, ready s → ready (s.cancelingAll times ids) ∧
      ∀ t, hit (s.cancelingAll times ids) t → hit s t)
    (once : ∀ s, s.Integrity → s.UntilFinished (·.status = none) → ready s →
      op.Ensures (s.CancelsAll (hit s)) s)
    (whole : s.Integrity) (unset : s.UntilFinished (·.status = none)) (holds : ready s) :
    op.Strikes (hit s) s := by
  refine (once s whole unset holds).mono fun res s' done => ⟨done, ?_⟩
  obtain ⟨ids, times, -, hits, rfl, rfl⟩ := done
  obtain ⟨holds', before⟩ := untouched s times ids holds
  refine (once _ (whole.cancelingAll times ids) (unset.cancelingAll times ids) holds').mono ?_
  intro res' s'' again
  refine again.none fun t mem hit' => ?_
  obtain ⟨known, other⟩ := Store.unfinished_cancelingAll mem (unfinished _ t hit')
  exact other ((hits t.id).mpr ⟨t, known, rfl, before t hit'⟩)

/-! ### The ways of canceling -/

/-- The unfinished work for a **ref** other than the default branch. -/
theorem ref_strikes (whole : s.Integrity) (unset : s.UntilFinished (·.status = none))
    (repository : Id) {name main : String} (other : name ≠ main) :
    (ref repository name main).Strikes (fun t => t.isFinished = false ∧
      s.Tests repository name t.submission) s := by
  refine strikes_of_ensures (fun _ => True)
    (fun s t => t.isFinished = false ∧ s.Tests repository name t.submission)
    (fun _ _ hit => hit.1) (fun _ _ _ _ => ⟨trivial, fun _ => id⟩) ?_ whole unset trivial
  intro s whole unset _
  have counts := ref_ensures whole repository name main
  rw [if_neg other] at counts
  have waiting := openForRef_unfinished whole repository name
  exact counts.mono fun res s' done =>
    done.cancelsAll waiting.distinct fun t => Store.openForRef_iff unset

/-- The task's repository has an **owner** who is a user. -/
def hasOwner (s : Store) (t : Task) : Bool :=
  (((s.repository? t.repository).bind (·.owner)).bind s.user?).isSome

theorem hasOwner_iff (whole : s.Integrity) {t : Task} : hasOwner s t = true ↔
    ∃ repository ∈ s.repositories, repository.id = t.repository ∧
      ∃ owner ∈ s.users, repository.owner = some owner.id := by
  simp only [hasOwner, Option.isSome_iff_exists, Option.bind_eq_some_iff]
  constructor
  · rintro ⟨owner, id, ⟨repository, found, eq⟩, user⟩
    obtain ⟨known, same⟩ := whole.repository?_eq_some.mp found
    obtain ⟨mem, rfl⟩ := whole.user?_eq_some.mp user
    exact ⟨repository, known, same, owner, mem, eq⟩
  · rintro ⟨repository, known, same, owner, mem, eq⟩
    exact ⟨owner, owner.id, ⟨repository, whole.repository?_eq_some.mpr ⟨known, same⟩, eq⟩,
      whole.user?_eq_some.mpr ⟨mem, rfl⟩⟩

/-- The target of a task tells whether it has an owner. -/
theorem target_owner (whole : s.Integrity) {t : Task} (known : t ∈ s.tasks) :
    ∃ target, s.target t.id = .ok target ∧ target.owner.isNone = !hasOwner s t := by
  obtain ⟨repository, mem, -, -, ref, -, same, -, -, target⟩ := whole.target_found known
  refine ⟨_, target, ?_⟩
  rw [hasOwner, whole.repository?_eq_some.mpr ⟨mem, same⟩, Option.bind_some, Option.not_isSome]

/-- Those of the tasks that have an **owner** are canceled one after the other. -/
theorem ownedTasks_ensures {l : List Task} (whole : s.Integrity) (waiting : s.Unfinished l) :
    (ownedTasks l).Ensures (Counts s ((l.filter (hasOwner s)).map (·.id))) s := by
  induction l generalizing s with
  | nil => exact ⟨rfl, .nil s⟩
  | cons t rest ih =>
      have known := waiting.known t List.mem_cons_self
      have unfinished := waiting.unfinished t List.mem_cons_self
      obtain ⟨target, found, owner⟩ := target_owner whole known
      rw [ownedTasks]
      refine ensures_bind.mpr ((ensures_store (.getTarget t.id)).mpr fun now => ?_)
      rw [StoreCall.run, StoreM.look_run, found]
      dsimp only
      cases owned : hasOwner s t with
      | false =>
          rw [if_pos (by rw [owner, owned]; rfl), List.filter_cons_of_neg (by simp [owned])]
          exact ih whole waiting.tail
      | true =>
          rw [if_neg (by rw [owner, owned]; decide), List.filter_cons_of_pos owned, List.map_cons]
          refine attempt_ensures waiting (fun mem => waiting.fresh ?_)
            (task_ensures whole known unfinished) (fun _ => rfl) fun now => ?_
          · exact (List.filter_sublist.map _).subset mem
          · exact ih (whole.step (.cancel now t known unfinished)) (waiting.canceling now)

/-- The unfinished work for a **pull request** against a repository that has an owner. -/
theorem pullRequest_strikes (whole : s.Integrity) (unset : s.UntilFinished (·.status = none))
    (name : String) (number : Int64) :
    (pullRequest name number).Strikes (fun t => t.isFinished = false ∧
      t.pullRequest = some number ∧ ∃ repository ∈ s.repositories,
        repository.id = t.repository ∧ repository.name = name ∧
          ∃ owner ∈ s.users, repository.owner = some owner.id) s := by
  refine strikes_of_ensures (fun _ => True)
    (fun s t => t.isFinished = false ∧ t.pullRequest = some number ∧
      ∃ repository ∈ s.repositories, repository.id = t.repository ∧ repository.name = name ∧
        ∃ owner ∈ s.users, repository.owner = some owner.id)
    (fun _ _ hit => hit.1) (fun _ _ _ _ => ⟨trivial, fun _ => id⟩) ?_ whole unset trivial
  intro s whole unset _
  have waiting : s.Unfinished (s.openForPullRequest name number) :=
    { known := fun t mem => List.mem_of_mem_filter mem
      unfinished := fun t mem => by
        have isOpen := (List.mem_filter.mp mem).2
        simp only [Bool.and_eq_true, Bool.not_eq_true'] at isOpen
        exact isOpen.1.2
      distinct := whole.tasks.nodup.sublist (List.filter_sublist.map _) }
  refine ensures_bind.mpr ((ensures_store (.openForPullRequest name number)).mpr fun now => ?_)
  refine (ownedTasks_ensures whole waiting).mono fun res s' done => ?_
  refine done.cancelsAll (waiting.filter _).distinct fun t => ?_
  rw [List.mem_filter, hasOwner_iff whole, Store.openForPullRequest, List.mem_filter]
  simp only [Bool.and_eq_true, Bool.not_eq_true', Option.any_eq_true, decide_eq_true_eq]
  constructor
  · rintro ⟨⟨known, ⟨request, unfinished⟩, repository, found, named⟩, other, mem, same, owner⟩
    obtain ⟨mem', same'⟩ := whole.repository?_eq_some.mp found
    obtain rfl : repository = other :=
      Store.eq_of_key whole.repositories.nodup mem' mem (same'.trans same.symm)
    exact ⟨known, unfinished, request, repository, mem, same, named, owner⟩
  · rintro ⟨known, unfinished, request, repository, mem, same, named, owner⟩
    have found := whole.repository?_eq_some.mpr ⟨mem, same⟩
    exact ⟨⟨known, ⟨request, unfinished⟩, repository, found, named⟩, repository, mem, same, owner⟩

/-- Unfinished tasks are canceled, **whatever of them can be**: all of them. -/
theorem whateverPossible_ensures {l : List Task} (whole : s.Integrity)
    (waiting : s.Unfinished l) : (whateverPossible l).Ensures (Counts s (l.map (·.id))) s := by
  induction l generalizing s with
  | nil => exact ⟨rfl, .nil s⟩
  | cons t rest ih =>
      have known := waiting.known t List.mem_cons_self
      have unfinished := waiting.unfinished t List.mem_cons_self
      rw [whateverPossible]
      refine attempt_ensures waiting waiting.fresh (task_ensures whole known unfinished)
        (fun _ => rfl) fun now => ?_
      exact ih (whole.step (.cancel now t known unfinished)) (waiting.canceling now)

/-- The unfinished tasks of a **submission** that is there. -/
theorem submission_strikes (whole : s.Integrity) (unset : s.UntilFinished (·.status = none))
    {x : StoredSubmission} (known : x ∈ s.submissions) :
    (submission x.id).Strikes (fun t => t.isFinished = false ∧ t.submission = x.id) s := by
  refine strikes_of_ensures (x ∈ ·.submissions)
    (fun _ t => t.isFinished = false ∧ t.submission = x.id)
    (fun _ _ hit => hit.1) (fun _ _ _ known => ⟨known, fun _ hit => hit⟩) ?_ whole unset known
  intro s whole unset known
  obtain ⟨_, _, -, shown⟩ := whole.submission_shown known
  have waiting := whole.unfinishedTasksOf x.id
  refine ensures_bind.mpr ((ensures_store (.getSubmission x.id)).mpr fun now => ?_)
  rw [StoreCall.run, StoreM.look_run, shown]
  refine ensures_bind.mpr ((ensures_store (.listTasks x.id)).mpr fun now => ?_)
  refine (whateverPossible_ensures whole waiting).mono fun res s' done => ?_
  exact done.cancelsAll waiting.distinct fun t => Store.mem_unfinishedTasksOf

/-- The answer to canceling a **finished** task. -/
def finishedError (task : Id) : OperationError :=
  StoreError.conflict ("task " ++ task.text ++ " was already finished; cannot cancel")

/-- The answer to canceling what **is not there**. -/
def missingError (subject : String) (id : Id) : OperationError :=
  StoreError.notFound (subject ++ " " ++ id.text)

theorem task_finished (whole : s.Integrity) {t : Task} (known : t ∈ s.tasks)
    (finished : t.isFinished = true) : (task t.id).Rests (.error (finishedError t.id)) s := by
  have found : s.task? t.id = some t := whole.task?_eq_some.mpr ⟨known, rfl⟩
  refine ensures_task.mpr ((ensures_store (.cancelTask t.id)).mpr fun now => ?_)
  rw [StoreCall.run, Store.cancelTask_conflict found finished now]
  exact ⟨rfl, rfl⟩

theorem task_missing {id : Id} (missing : s.task? id = none) :
    (task id).Rests (.error (missingError "task" id)) s := by
  refine ensures_task.mpr ((ensures_store (.cancelTask id)).mpr fun now => ?_)
  rw [StoreCall.run, Store.cancelTask_missing missing now]
  exact ⟨rfl, rfl⟩

end Cancellation

/-- Canceling **strikes one task** with its open runs, which are the answer. If the task has
finished, or once more, there is a conflict, and nothing changes. -/
structure Operation.StrikesTask (op : Operation (List Run)) (t : Task) (s : Store) : Prop where
  unfinished : t.isFinished = false → op.Ensures (fun res s' =>
    ∃ now, res = .ok (s.canceledRuns now t.id) ∧ s' = s.cancelingAll (fun _ => now) [t.id] ∧
      op.Rests (.error (Cancellation.finishedError t.id)) s') s
  finished : t.isFinished = true → op.Rests (.error (Cancellation.finishedError t.id)) s

namespace Cancellation

open Operation

variable {s : Store}

/-- What **comes to canceling the task**, before and after it has been canceled, strikes it. -/
theorem strikesTask_of_iff {op : Operation (List Run)} {t : Task} (whole : s.Integrity)
    (known : t ∈ s.tasks) (before : ∀ post, op.Ensures post s ↔ (task t.id).Ensures post s)
    (after : ∀ now post, op.Ensures post (s.canceling now t.id) ↔
      (task t.id).Ensures post (s.canceling now t.id)) : op.StrikesTask t s where
  unfinished isOpen := by
    refine (before _).mpr ((task_ensures whole known isOpen).mono ?_)
    rintro _ _ ⟨now, rfl, rfl⟩
    have struck : Store.endCanceled now t ∈ (s.canceling now t.id).tasks :=
      Store.canceling_tasks_of_eq known rfl
    have again := task_finished (whole.step (.cancel now t known isOpen)) struck rfl
    exact ⟨now, rfl, Store.canceling_eq_cancelingAll s now t.id, (after now _).mpr again⟩
  finished closed := (before _).mpr (task_finished whole known closed)

/-- Canceling for a **run** that is there comes to canceling its task. -/
theorem ensures_run {id : Id} {r : Run} (found : s.run? id = some r)
    {post : Except OperationError (List Run) → Store → Prop} :
    (run id).Ensures post s ↔ (task r.task).Ensures post s := by
  have known : s.run id = .ok r := Store.expect_eq_ok.mpr found
  rw [run, ensures_bind, ensures_store (.getRun id)]
  simp only [StoreCall.run, StoreM.look_run, known]
  exact forall_const Timestamp

theorem run_strikes (whole : s.Integrity) {r : Run} {t : Task} (known : r ∈ s.runs)
    (knownTask : t ∈ s.tasks) (own : t.id = r.task) : (run r.id).StrikesTask t s := by
  refine strikesTask_of_iff whole knownTask (fun post => ?_) (fun now post => ?_)
  · rw [ensures_run (whole.run?_eq_some.mpr ⟨known, rfl⟩), own]
  · have whole' : (s.canceling now t.id).Integrity := by
      rw [Store.canceling_eq]
      exact whole.revise (Store.revises_canceling now t.id)
    have same := (Store.revises_canceling now t.id).run r
    have known' : (if Store.isOpenRunOf t.id r then Store.endRun now false r else r) ∈
        (s.canceling now t.id).runs := by
      rw [Store.canceling_eq]
      exact List.mem_map_of_mem known
    rw [ensures_run (whole'.run?_eq_some.mpr ⟨known', same.id⟩), same.task, own]

end Cancellation

/-! ### All of them -/

namespace Store

open Cancellation

/-- What the ways of **canceling on demand** do in a store that does not fail. -/
structure CancelsOnDemand (s : Store) : Prop where
  /-- Work on the default branch is left alone. -/
  defaultBranch : ∀ repository name, (Cancellation.ref repository name name).Rests (.ok 0) s
  /-- For any other ref its unfinished tasks are canceled. -/
  ref : ∀ repository name main, name ≠ main → (Cancellation.ref repository name main).Strikes
    (fun t => t.isFinished = false ∧ s.Tests repository name t.submission) s
  /-- For a pull request those are canceled whose repository has the name and an owner. -/
  pullRequest : ∀ name number, (Cancellation.pullRequest name number).Strikes
    (fun t => t.isFinished = false ∧ t.pullRequest = some number ∧
      ∃ repository ∈ s.repositories, repository.id = t.repository ∧ repository.name = name ∧
        ∃ owner ∈ s.users, repository.owner = some owner.id) s
  /-- For a submission its unfinished tasks are canceled. -/
  submission : ∀ x ∈ s.submissions, (Cancellation.submission x.id).Strikes
    (fun t => t.isFinished = false ∧ t.submission = x.id) s
  noSubmission : ∀ id, (∀ x ∈ s.submissions, x.id ≠ id) →
    (Cancellation.submission id).Rests (.error (missingError "submission" id)) s
  task : ∀ t ∈ s.tasks, (Cancellation.task t.id).StrikesTask t s
  noTask : ∀ id, (∀ t ∈ s.tasks, t.id ≠ id) →
    (Cancellation.task id).Rests (.error (missingError "task" id)) s
  /-- For a run its task is canceled. -/
  run : ∀ r ∈ s.runs, ∃ t ∈ s.tasks, t.id = r.task ∧ (Cancellation.run r.id).StrikesTask t s
  noRun : ∀ id, (∀ r ∈ s.runs, r.id ≠ id) →
    (Cancellation.run id).Rests (.error (missingError "run" id)) s

/-- **Canceling hits exactly its target** in every store, whatever calls have led to it. -/
theorem cancels_onDemand (calls : List DueCall) : (empty.after calls).CancelsOnDemand := by
  have whole := integrity_empty.after calls
  have unset := unfinished_unset calls
  constructor
  case defaultBranch =>
    intro repository name
    rw [Cancellation.ref, if_pos rfl]
    exact ⟨rfl, rfl⟩
  case ref => exact fun repository name main other => ref_strikes whole unset repository other
  case pullRequest => exact fun name number => pullRequest_strikes whole unset name number
  case submission => exact fun x known => submission_strikes whole unset known
  case noSubmission =>
    intro id missing
    have notFound : submission? (empty.after calls) id = none :=
      List.find?_eq_none.mpr fun x known => by simpa using missing x known
    refine Operation.rests_of_refused fun now => ?_
    rw [StoreCall.run, StoreM.look_run, Store.submission, notFound]
    rfl
  case task =>
    intro t known
    exact strikesTask_of_iff whole known (fun _ => Iff.rfl) (fun _ _ => Iff.rfl)
  case noTask =>
    intro id missing
    exact task_missing (List.find?_eq_none.mpr fun t known => by simpa using missing t known)
  case run =>
    intro r known
    obtain ⟨t, knownTask, own⟩ := whole.exists_task known
    exact ⟨t, knownTask, own, run_strikes whole known knownTask own⟩
  case noRun =>
    intro id missing
    have notFound : run? (empty.after calls) id = none :=
      List.find?_eq_none.mpr fun r known => by simpa using missing r known
    refine Operation.rests_of_refused fun now => ?_
    rw [StoreCall.run, StoreM.look_run, Store.run, notFound]
    rfl

end Store

end Dispatch
