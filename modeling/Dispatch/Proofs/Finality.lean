import Dispatch.Proofs.Store.Service

/-!
# Endings are final

Recording the status of a run and canceling a task both write runs and tasks, and they may follow
each other in any order, also on the same task, and with runs that are created or put on the queue
late. Still a run gets at most one status, and a task ends at most once.

## Main definitions

* `Store.Continues`: a later store with the same endings.
* `Store.UntilFinished`: what holds of every task until it has finished.
* `Store.Flagged`: only finished tasks are marked as canceled.
* `Store.KeepsEndings`: what has ended in a store stays as it ended whatever is called.

## Main results

* `Store.Continues.move`: one call leaves a later store with the same endings.
* `Worker.isCanceled_ends`: what a worker is told about a run.
* `Store.endings_final`: endings are final after any calls.
-/

namespace Dispatch

/-! ### Endings -/

/-- A later version of a run: once it has a **status**, it keeps it. -/
structure Run.Continues (r r' : Run) : Prop where
  id : r'.id = r.id
  task : r'.task = r.task
  status : r.status.isSome = true → r'.status = r.status
  finishedAt : r.status.isSome = true → r'.finishedAt = r.finishedAt

/-- A later version of a task: once it has **finished**, it stays as it ended. -/
structure Task.Continues (t t' : Task) : Prop where
  id : t'.id = t.id
  status : t.isFinished = true → t'.status = t.status
  canceled : t.isFinished = true → t'.canceled = t.canceled
  finishedAt : t.isFinished = true → t'.finishedAt = t.finishedAt

theorem Run.Continues.refl (r : Run) : r.Continues r := ⟨rfl, rfl, fun _ => rfl, fun _ => rfl⟩

theorem Task.Continues.refl (t : Task) : t.Continues t :=
  ⟨rfl, fun _ => rfl, fun _ => rfl, fun _ => rfl⟩

theorem Run.Continues.trans {r r' r'' : Run} (first : r.Continues r') (second : r'.Continues r'') :
    r.Continues r'' where
  id := second.id.trans first.id
  task := second.task.trans first.task
  status ended := by
    have same := first.status ended
    rw [second.status (by rw [same]; exact ended), same]
  finishedAt ended := by
    have same := first.status ended
    rw [second.finishedAt (by rw [same]; exact ended), first.finishedAt ended]

theorem Task.Continues.trans {t t' t'' : Task} (first : t.Continues t')
    (second : t'.Continues t'') : t.Continues t'' := by
  have finished : t.isFinished = true → t'.isFinished = true := by
    intro finished
    rw [Task.isFinished, first.finishedAt finished]
    exact finished
  constructor
  case id => exact second.id.trans first.id
  case status => exact fun h => (second.status (finished h)).trans (first.status h)
  case canceled => exact fun h => (second.canceled (finished h)).trans (first.canceled h)
  case finishedAt => exact fun h => (second.finishedAt (finished h)).trans (first.finishedAt h)

/-- Starting a run is none of its endings. -/
theorem Run.continues_start (r : Run) (now : Timestamp) : r.Continues (Store.startRun now r) :=
  ⟨rfl, rfl, fun _ => rfl, fun _ => rfl⟩

/-- A run ends only while it has no status. -/
theorem Run.continues_end {r : Run} (unended : r.status = none) (now : Timestamp) (status : Bool) :
    r.Continues (Store.endRun now status r) where
  id := rfl
  task := rfl
  status ended := by rw [unended] at ended; cases ended
  finishedAt ended := by rw [unended] at ended; cases ended

theorem Task.continues_start (t : Task) (now : Timestamp) : t.Continues (Store.startTask now t) :=
  ⟨rfl, fun _ => rfl, fun _ => rfl, fun _ => rfl⟩

/-- A task ends, in whichever way, only while it is unfinished. -/
theorem Task.continues_unfinished {t t' : Task} (unfinished : t.isFinished = false)
    (id : t'.id = t.id) : t.Continues t' where
  id := id
  status finished := by cases unfinished.symm.trans finished
  canceled finished := by cases unfinished.symm.trans finished
  finishedAt finished := by cases unfinished.symm.trans finished

namespace Store

/-! ### Later stores -/

/-- A **later store** with the same endings. -/
structure Continues (s s' : Store) : Prop where
  runs : ∀ r ∈ s.runs, ∃ r' ∈ s'.runs, r.Continues r'
  tasks : ∀ t ∈ s.tasks, ∃ t' ∈ s'.tasks, t.Continues t'

namespace Continues

variable {s s' : Store}

theorem refl (s : Store) : s.Continues s where
  runs r mem := ⟨r, mem, .refl r⟩
  tasks t mem := ⟨t, mem, .refl t⟩

theorem trans {s₁ s₂ s₃ : Store} (first : s₁.Continues s₂) (second : s₂.Continues s₃) :
    s₁.Continues s₃ where
  runs r mem := by
    obtain ⟨r', mem', continues⟩ := first.runs r mem
    obtain ⟨r'', mem'', continues'⟩ := second.runs r' mem'
    exact ⟨r'', mem'', continues.trans continues'⟩
  tasks t mem := by
    obtain ⟨t', mem', continues⟩ := first.tasks t mem
    obtain ⟨t'', mem'', continues'⟩ := second.tasks t' mem'
    exact ⟨t'', mem'', continues.trans continues'⟩

/-- Records that are added leave those that are there. -/
theorem of_append (tasks : List Task) (runs : List Run) (knownTasks : s'.tasks = s.tasks ++ tasks)
    (knownRuns : s'.runs = s.runs ++ runs) : s.Continues s' where
  runs r mem := ⟨r, by rw [knownRuns]; exact List.mem_append_left _ mem, .refl r⟩
  tasks t mem := ⟨t, by rw [knownTasks]; exact List.mem_append_left _ mem, .refl t⟩

/-- Calls about other records leave runs and tasks as they are. -/
theorem of_eq (knownTasks : s'.tasks = s.tasks) (knownRuns : s'.runs = s.runs) :
    s.Continues s' :=
  of_append [] [] (by rw [knownTasks, List.append_nil])
    (by rw [knownRuns, List.append_nil])

/-- A revision keeps the endings if it keeps those of each run and task. -/
theorem revise {task : Task → Task} {run : Run → Run} {keep : StoredItem → Bool}
    {item : StoredItem → StoredItem} (tasks : ∀ t ∈ s.tasks, t.Continues (task t))
    (runs : ∀ r ∈ s.runs, r.Continues (run r)) : s.Continues (s.revise task run keep item) where
  runs r mem := ⟨run r, List.mem_map_of_mem mem, runs r mem⟩
  tasks t mem := ⟨task t, List.mem_map_of_mem mem, tasks t mem⟩

/-- A run that ends is continued, and so are all others. -/
theorem runs_ending (h : s.Integrity) {r : Run} (known : r ∈ s.runs) (unended : r.status = none)
    (now : Timestamp) (status : Bool) :
    ∀ q ∈ s.runs, q.Continues (if q.id = r.id then endRun now status q else q) := by
  intro q mem
  split
  · rename_i same
    obtain rfl : q = r := h.eq_of_run_id mem known same
    exact Run.continues_end unended now status
  · exact .refl q

/-- A **step** of the store keeps the endings. -/
theorem step (h : s.Integrity) (st : s.Step s') : s.Continues s' := by
  cases st with
  | stay => exact .refl s
  | addUser | addRepository | addRef | addSubmission => exact of_eq rfl rfl
  | claim now worker i r queued waiting known run =>
      rw [claiming_eq]
      refine revise (fun t _ => ?_) (fun q _ => ?_)
      · split
        exacts [t.continues_start now, .refl t]
      · split
        exacts [q.continues_start now, .refl q]
  | endRun now status r t known unended =>
      rw [ending_eq]
      exact revise (fun t _ => .refl t) (runs_ending h known unended now status)
  | endTask now status result r t known unended knownTask task unfinished sums =>
      rw [ending_changeTask_eq]
      refine revise (fun u mem => ?_) (runs_ending h known unended now status)
      split
      · rename_i same
        obtain rfl : u = t := h.eq_of_task_id mem knownTask same
        exact Task.continues_unfinished unfinished rfl
      · exact .refl u
  | cancel now t known unfinished =>
      rw [canceling_eq]
      refine revise (fun u mem => ?_) (fun r mem => ?_)
      · split
        · rename_i same
          obtain rfl : u = t := h.eq_of_task_id mem known same
          exact Task.continues_unfinished unfinished rfl
        · exact .refl u
      · split
        · rename_i isOpen
          have unended : r.status = none := by
            rw [isOpenRunOf, Bool.and_eq_true] at isOpen
            exact Option.isNone_iff_eq_none.mp isOpen.2
          exact Run.continues_end unended now false
        · exact .refl r

/-- **Any call** keeps the endings. -/
theorem move (h : s.Integrity) (m : s.Move s') : s.Continues s' := by
  cases m with
  | step st => exact step h st
  | addTask now new => exact of_append _ [] rfl (List.append_nil _).symm
  | addRun now new => exact of_append [] _ (List.append_nil _).symm rfl
  | queueing batch => exact of_eq rfl rfl

/-- So do calls one after the other. -/
theorem after (h : s.Integrity) (calls : List DueCall) : s.Continues (s.after calls) :=
  h.after_within .refl (fun _ _ _ => .trans)
    (fun _ whole call now => move whole (call.run_moves whole now)) calls

/-- A run that has a status is found with it later. -/
theorem run? (c : s.Continues s') (h : s.Integrity) (h' : s'.Integrity) {id : Id} {r : Run}
    (found : s.run? id = some r) : ∃ r', s'.run? id = some r' ∧ r.Continues r' := by
  obtain ⟨known, rfl⟩ := h.run?_eq_some.mp found
  obtain ⟨r', known', continues⟩ := c.runs r known
  exact ⟨r', h'.run?_eq_some.mpr ⟨known', continues.id⟩, continues⟩

/-- A task that has finished is found as it ended later. -/
theorem task? (c : s.Continues s') (h : s.Integrity) (h' : s'.Integrity) {id : Id} {t : Task}
    (found : s.task? id = some t) : ∃ t', s'.task? id = some t' ∧ t.Continues t' := by
  obtain ⟨known, rfl⟩ := h.task?_eq_some.mp found
  obtain ⟨t', known', continues⟩ := c.tasks t known
  exact ⟨t', h'.task?_eq_some.mpr ⟨known', continues.id⟩, continues⟩

end Continues

/-! ### Unfinished tasks -/

/-- What holds of every task **until it has finished**. -/
def UntilFinished (P : Task → Prop) (s : Store) : Prop := ∀ t ∈ s.tasks, t.isFinished = false → P t

namespace UntilFinished

variable {s s' : Store} {P : Task → Prop}

theorem empty : Store.empty.UntilFinished P := by
  simp [UntilFinished, Store.empty]

/-- A revision leaves what it does not finish as unfinished as it was. -/
theorem revise (h : s.UntilFinished P) {task : Task → Task} {run : Run → Run}
    {keep : StoredItem → Bool} {item : StoredItem → StoredItem}
    (kept : ∀ t, (task t).isFinished = false → t.isFinished = false ∧ (P t → P (task t))) :
    (s.revise task run keep item).UntilFinished P := by
  intro u changed unfinished
  obtain ⟨t, known, rfl⟩ := List.mem_map.mp changed
  obtain ⟨before, still⟩ := kept t unfinished
  exact still (h t known before)

/-- A **step** keeps what starting does not touch: all else that changes a task finishes it. -/
theorem step (start : ∀ now t, P t → P (startTask now t)) (h : s.UntilFinished P)
    (st : s.Step s') : s'.UntilFinished P := by
  cases st with
  | stay | addUser | addRepository | addRef | addSubmission => exact h
  | claim now worker i r queued waiting known run =>
      rw [claiming_eq]
      refine h.revise fun t unfinished => ?_
      by_cases own : t.id = r.task
      · rw [if_pos own] at unfinished ⊢
        exact ⟨unfinished, start now t⟩
      · rw [if_neg own] at unfinished ⊢
        exact ⟨unfinished, id⟩
  | endRun now status r =>
      rw [ending_eq]
      exact h.revise fun t unfinished => ⟨unfinished, id⟩
  | endTask now status result r t =>
      rw [ending_changeTask_eq]
      refine h.revise fun u unfinished => ?_
      by_cases own : u.id = t.id
      · rw [if_pos own] at unfinished
        cases unfinished
      · rw [if_neg own] at unfinished ⊢
        exact ⟨unfinished, id⟩
  | cancel now t =>
      rw [canceling_eq]
      refine h.revise fun u unfinished => ?_
      by_cases own : u.id = t.id
      · rw [if_pos own] at unfinished
        cases unfinished
      · rw [if_neg own] at unfinished ⊢
        exact ⟨unfinished, id⟩

/-- Calls keep what holds of new tasks and what starting does not touch. -/
theorem move (start : ∀ now t, P t → P (startTask now t))
    (fresh : ∀ (s : Store) now new, P (s.newTask now new)) (h : s.UntilFinished P)
    (m : s.Move s') : s'.UntilFinished P := by
  cases m with
  | step st => exact h.step start st
  | addTask now new => exact forall_mem_append_one h fun _ => fresh s now new
  | addRun now new => exact h
  | queueing batch => exact h

theorem after (start : ∀ now t, P t → P (startTask now t))
    (fresh : ∀ (s : Store) now new, P (s.newTask now new)) (h : s.UntilFinished P)
    (whole : s.Integrity) (calls : List DueCall) : (s.after calls).UntilFinished P :=
  whole.after_within (R := fun s s' => s.UntilFinished P → s'.UntilFinished P) (fun _ => id)
    (fun _ _ _ first second h => second (first h))
    (fun _ whole call now h => h.move start fresh (call.run_moves whole now)) calls h

end UntilFinished

/-- An unfinished task has **no status**. -/
theorem unfinished_unset (calls : List DueCall) :
    (empty.after calls).UntilFinished (·.status = none) :=
  UntilFinished.empty.after (fun _ _ => id) (fun _ _ _ => rfl) integrity_empty calls

/-- Only finished tasks are **marked as canceled**. -/
def Flagged (s : Store) : Prop := ∀ t ∈ s.tasks, t.isFinished = false → t.canceled = false

theorem flagged_empty : Flagged empty := UntilFinished.empty

theorem Flagged.after {s : Store} (h : s.Flagged) (whole : s.Integrity) (calls : List DueCall) :
    (s.after calls).Flagged :=
  UntilFinished.after (P := (·.canceled = false)) (fun _ _ => id) (fun _ _ _ => rfl) h whole calls

end Store

/-! ### What workers are told -/

namespace Worker

variable {id : Id} {s s' : Store} {tr : Trace} {res : Except OperationError Bool}

/-- A worker is told whether the **task of a run** has been canceled, unless the store fails or one
of them is not there. Others may call the store between the two lookups. -/
theorem isCanceled_ends (h : (isCanceled id).EndsAmid s tr res s') :
    ∃ before between, (∃ later r t, (s.after before).run? id = some r ∧
        ((s.after before).after between).task? r.task = some t ∧
        s' = ((s.after before).after between).after later ∧ res = .ok t.canceled) ∨
      (∃ e, res = .error e) ∧ (tr.Faultless → ∀ r, (s.after before).run? id = some r →
        ((s.after before).after between).task? r.task = none) := by
  obtain ⟨before, ⟨now, r, rest, answer, rfl, second⟩ | ⟨failed, refused⟩⟩ :=
    Operation.endsAmid_store_bind h
  · have run : (s.after before).run? id = some r := Store.expect_eq_ok.mp answer
    obtain ⟨between, ⟨now, t, rest, answer, rfl, last⟩ | ⟨failed, refused⟩⟩ :=
      Operation.endsAmid_store_bind second
    · have task : ((s.after before).after between).task? r.task = some t :=
        Store.expect_eq_ok.mp answer
      obtain ⟨-, rfl, later, rfl⟩ := Program.endsAmid_done last
      exact ⟨before, between, .inl ⟨later, r, t, run, task, rfl, rfl⟩⟩
    · refine ⟨before, between, .inr ⟨failed, fun faultless q known => ?_⟩⟩
      obtain rfl : r = q := Option.some.inj (run.symm.trans known)
      obtain ⟨_, e, answer⟩ := refused (Trace.faultless_store.mp faultless)
      rcases Store.expect_cases (((s.after before).after between).task? r.task)
        ("task " ++ r.task.text) with ⟨missing, -⟩ | ⟨t, -, found⟩
      · exact missing
      · cases found.symm.trans answer
  · refine ⟨before, [], .inr ⟨failed, fun faultless r known => ?_⟩⟩
    obtain ⟨_, e, answer⟩ := refused faultless
    have found : (s.after before).run id = .ok r := Store.expect_eq_ok.mpr known
    cases found.symm.trans answer

end Worker

/-! ### Finality -/

namespace Store

/-- What has **ended** in a store stays as it ended when it is called further. -/
structure KeepsEndings (s : Store) (more : List DueCall) : Prop where
  /-- The status of a run is final. -/
  run : ∀ id r, s.run? id = some r → r.status.isSome = true →
    ∃ r', (s.after more).run? id = some r' ∧ r'.status = r.status ∧ r'.finishedAt = r.finishedAt
  /-- A finished task is final. -/
  task : ∀ id t, s.task? id = some t → t.isFinished = true →
    ∃ t', (s.after more).task? id = some t' ∧ t'.status = t.status ∧ t'.canceled = t.canceled ∧
      t'.finishedAt = t.finishedAt
  /-- No unfinished task is marked as canceled. -/
  flagged : ∀ t ∈ s.tasks, t.isFinished = false → t.canceled = false
  /-- Once a worker has been told that a run is canceled, no worker is told otherwise, whatever
  others do before and while they are told. -/
  report : ∀ id tr s₁, (Worker.isCanceled id).EndsAmid s tr (.ok true) s₁ →
    ∀ tr' res s₂, (Worker.isCanceled id).EndsAmid (s₁.after more) tr' res s₂ →
      res ≠ .ok false ∧ (tr'.Faultless → res = .ok true)
  /-- No status is recorded for a run that has one. -/
  refusesStatus : ∀ id r, s.run? id = some r → r.status.isSome = true → ∀ now status,
    ∃ reason, finishRun now id status s = (.error (.conflict reason), s)
  /-- No finished task is canceled. -/
  refusesCancel : ∀ id t, s.task? id = some t → t.isFinished = true → ∀ now,
    ∃ reason, cancelTask now id s = (.error (.conflict reason), s)

/-- A task that is **marked as canceled** is so later. -/
theorem Integrity.canceled_after {s : Store} (h : s.Integrity) (flagged : s.Flagged) {id : Id}
    {t : Task} (task : s.task? id = some t) (canceled : t.canceled = true)
    (calls : List DueCall) : ∃ t', (s.after calls).task? id = some t' ∧ t'.canceled = true := by
  have finished : t.isFinished = true := by
    by_contra unfinished
    have unmarked := flagged t (h.task?_eq_some.mp task).1 (by simpa using unfinished)
    cases unmarked.symm.trans canceled
  obtain ⟨t', task', continues⟩ := (Continues.after h calls).task? h (h.after calls) task
  exact ⟨t', task', (continues.canceled finished).trans canceled⟩

/-- Once a worker has been **told** that a run is canceled, no worker is told otherwise. -/
theorem Integrity.report {s s₁ s₂ : Store} (h : s.Integrity) (flagged : s.Flagged) {id : Id}
    {tr tr' : Trace} {res : Except OperationError Bool}
    (told : (Worker.isCanceled id).EndsAmid s tr (.ok true) s₁) (more : List DueCall)
    (asked : (Worker.isCanceled id).EndsAmid (s₁.after more) tr' res s₂) :
    res ≠ .ok false ∧ (tr'.Faultless → res = .ok true) := by
  obtain ⟨before, between, told⟩ := Worker.isCanceled_ends told
  obtain ⟨later, r, t, run, task, rfl, answer⟩ := told.resolve_right (by simp)
  have canceled : t.canceled = true := (Except.ok.inj answer).symm
  obtain ⟨before', between', asked⟩ := Worker.isCanceled_ends asked
  have whole := h.after before
  have marked := flagged.after h before
  have whole' := whole.after between
  have marked' := marked.after whole between
  -- The run is looked up later than before, and so is the task, but they are the same two.
  obtain ⟨r', run', continues⟩ :=
    (Continues.after whole (between ++ later ++ more ++ before')).run? whole (whole.after _) run
  obtain ⟨t', task', canceled'⟩ :=
    whole'.canceled_after marked' task canceled (later ++ more ++ before' ++ between')
  simp only [after_append] at run' task'
  rcases asked with ⟨_, q, u, run, task, -, rfl⟩ | ⟨⟨e, rfl⟩, missing⟩
  · obtain rfl : r' = q := Option.some.inj (run'.symm.trans run)
    rw [continues.task] at task
    obtain rfl : t' = u := Option.some.inj (task'.symm.trans task)
    rw [canceled']
    exact ⟨by simp, fun _ => rfl⟩
  · refine ⟨by simp, fun faultless => ?_⟩
    have noTask := missing faultless r' run'
    rw [continues.task] at noTask
    cases task'.symm.trans noTask

/-- **Endings are final**: what has ended after any calls stays as it ended after any others. -/
theorem endings_final (calls more : List DueCall) : (empty.after calls).KeepsEndings more := by
  have whole := integrity_empty.after calls
  have whole' := whole.after more
  have flagged := flagged_empty.after integrity_empty calls
  have continues := Continues.after whole more
  constructor
  case run =>
    intro id r found ended
    obtain ⟨r', found', same⟩ := continues.run? whole whole' found
    exact ⟨r', found', same.status ended, same.finishedAt ended⟩
  case task =>
    intro id t found finished
    obtain ⟨t', found', same⟩ := continues.task? whole whole' found
    exact ⟨t', found', same.status finished, same.canceled finished, same.finishedAt finished⟩
  case flagged => exact flagged
  case report =>
    intro id tr s₁ told tr' res s₂ asked
    exact whole.report flagged told more asked
  case refusesStatus =>
    intro id r found ended now status
    exact finishRun_ended found ended now status
  case refusesCancel =>
    intro id t found finished now
    exact ⟨_, cancelTask_conflict found finished now⟩

end Store

end Dispatch
