import Dispatch.Proofs.Reporting.Bookkeeping
import Dispatch.Proofs.Store.Conclusion
import Dispatch.Proofs.Submission.Failure
import Dispatch.Proofs.Submission.Leftovers

/-!
# Making up for a refused batch

When the runs that have been picked cannot be put on the queue, they fail one by one, each with a
notification. A task fails with the last of its runs; a task without runs is left as it is. What is
in the store besides does not change.

## Main definitions

* `Run.FailsAs`, `Task.FailsWith`: runs that fail, and what becomes of their tasks.
* `Store.Failing`: work of which some runs have failed and the others are going to.
* `Intake.Refusal`: what remains of a submission whose batch is refused.
* `Intake.MakesUp`: how a refused batch is made up for.

## Main results

* `Store.Failing.step`: one more run fails.
* `Worker.setStatus_open`: it fails by having its status recorded, and there is a notice of it.
* `Intake.failRuns_failing`: all of them fail.
* `Picking.pick_notices`: the notices that picking gives.
* `Intake.submit_makesUp`: what happens if the store refuses the batch.
-/

namespace Dispatch

/-! ### Work that fails -/

/-- A run that **fails**. -/
def Run.FailsAs (r r' : Run) : Prop := ∃ now, r' = Store.endRun now false r

/-- What becomes of a task when such runs **fail**: so does the task, unless none of them is its
own. -/
structure Task.FailsWith (runs : List Run) (t t' : Task) : Prop where
  failed : (∃ r ∈ runs, r.task = t.id) → ∃ now, t' = Store.endTask now false t
  spared : (∀ r ∈ runs, r.task ≠ t.id) → t' = t

namespace Store

/-- A task **fails with its last run**: none of the rest is one of its own. -/
def failWith (now : Timestamp) (r : Run) (rest : List Run) (t : Task) : Task :=
  if t.id = r.task ∧ ∀ q ∈ rest, q.task ≠ t.id then endTask now false t else t

theorem failWith_id (now : Timestamp) (r : Run) (rest : List Run) (t : Task) :
    (failWith now r rest t).id = t.id := by
  rw [failWith]
  split <;> rfl

/-- It does not fail while there are other runs of its own. -/
theorem failWith_of_mem {now : Timestamp} {r q : Run} {rest : List Run} {t : Task} (mem : q ∈ rest)
    (own : q.task = t.id) : failWith now r rest t = t :=
  if_neg fun last => last.2 q mem own

/-- Work that has been added to a store: some of its runs **have ended**, and the rest are going to
fail. -/
structure Failing (base : Store) (a : Address) (ts : List Task) (ended rest : List Run) :
    Prop where
  whole : (base.addWork ts (ended ++ rest)).Integrity
  /-- The work is not that of other runs, which have their own tasks. -/
  others : ∀ r ∈ base.runs, r.task ∈ base.tasks.map (·.id)
  queued : ∀ i ∈ base.queue, i.run ∈ base.runs.map (·.id)
  closed : ∀ r ∈ ended, r.status ≠ none
  opened : ∀ r ∈ rest, r.status = none
  /-- A task with a run that is going to fail has not finished, and its notices go to the
  address. -/
  own : ∀ r ∈ rest, ∃ t ∈ ts, t.id = r.task ∧ t.isFinished = false
  address : ∀ r ∈ rest, (base.addWork ts (ended ++ rest)).Addresses r.task a

namespace Failing

variable {base : Store} {a : Address} {ts : List Task} {ended rest : List Run} {r : Run}

/-- The run that comes next is none of the others. -/
theorem apart (h : Failing base a ts ended (r :: rest)) :
    ∀ q ∈ base.runs ++ ended ++ rest, q.id ≠ r.id := by
  have ids := h.whole.runs.nodup
  rw [addWork, ← List.append_assoc, List.map_append, List.map_cons, List.nodup_middle,
    ← List.map_append] at ids
  intro q mem same
  exact (List.nodup_cons.mp ids).1 (same ▸ List.mem_map_of_mem mem)

/-- Tasks that have been there before are none of those that were added. -/
theorem task_ne (h : Failing base a ts ended rest) {t t' : Task} (old : t ∈ base.tasks)
    (new : t' ∈ ts) : t.id ≠ t'.id := by
  have ids := h.whole.tasks.nodup
  rw [addWork, List.map_append] at ids
  intro same
  exact (List.nodup_append'.mp ids).2.2 (List.mem_map_of_mem old) (same ▸ List.mem_map_of_mem new)

/-- Once the next run has failed, a run of an added task is open exactly if it is one of the
rest. -/
theorem closed_iff (h : Failing base a ts ended (r :: rest)) (now : Timestamp) {t : Task}
    (known : t ∈ ts) :
    (∀ q ∈ (base.runs ++ (ended ++ [endRun now false r] ++ rest)).filter (·.task = t.id),
      q.status ≠ none) ↔ ∀ q ∈ rest, q.task ≠ t.id := by
  constructor
  · intro closed q mem own
    refine closed q (List.mem_filter.mpr ⟨?_, decide_eq_true own⟩)
      (h.opened q (List.mem_cons_of_mem _ mem))
    simp [mem]
  · intro others q filtered
    obtain ⟨mem, own⟩ := List.mem_filter.mp filtered
    have own := of_decide_eq_true own
    simp only [List.mem_append, List.mem_singleton] at mem
    rcases mem with old | (before | rfl) | later
    · obtain ⟨u, knownTask, same⟩ := List.mem_map.mp (h.others q old)
      exact absurd (same.trans own) (h.task_ne knownTask known)
    · exact h.closed q before
    · simp [endRun]
    · exact absurd own (others q later)

/-- The task of the next run **concludes** if that is its last run, and then it fails. -/
theorem concludes (h : Failing base a ts ended (r :: rest)) (now : Timestamp) {t : Task}
    (known : t ∈ ts) (own : t.id = r.task) :
    t.concluded now ((base.runs ++ (ended ++ [endRun now false r] ++ rest)).filter
      (·.task = t.id)) = failWith now r rest t := by
  have closed := h.closed_iff now known
  have fails : ((base.runs ++ (ended ++ [endRun now false r] ++ rest)).filter
      (·.task = t.id)).all (·.status = some true) = false := by
    rw [List.all_eq_false]
    exact ⟨endRun now false r, by simp [own, endRun], by simp [endRun]⟩
  by_cases last : ∀ q ∈ rest, q.task ≠ t.id
  · rw [Task.concluded, if_pos (closed.mpr last), failWith, if_pos ⟨own, last⟩, fails]
    rfl
  · rw [Task.concluded, if_neg fun all => last (closed.mp all), failWith,
      if_neg fun both => last both.2]

/-- **One more run fails**, and its task with it if that was the last run. -/
theorem concluding (h : Failing base a ts ended (r :: rest)) (now : Timestamp) :
    (base.addWork ts (ended ++ r :: rest)).concluding now r false =
      base.addWork (ts.map (failWith now r rest)) (ended ++ [endRun now false r] ++ rest) := by
  obtain ⟨t₀, known₀, own₀, -⟩ := h.own r List.mem_cons_self
  have stays {l : List Run} (sub : l ⊆ base.runs ++ ended ++ rest) :
      l.map (fun q => if q.id = r.id then endRun now false q else q) = l :=
    map_eq_self fun q mem => if_neg (h.apart q (sub mem))
  have runs : (base.runs ++ (ended ++ r :: rest)).map
      (fun q => if q.id = r.id then endRun now false q else q) =
      base.runs ++ (ended ++ [endRun now false r] ++ rest) := by
    rw [List.map_append, List.map_append, List.map_cons, if_pos rfl, stays (by simp),
      stays (by simp), stays (by simp)]
    simp
  have tasks : (base.tasks ++ ts).map (fun t => if t.id = r.task then t.concluded now
      ((base.runs ++ (ended ++ [endRun now false r] ++ rest)).filter (·.task = t.id)) else t) =
      base.tasks ++ ts.map (failWith now r rest) := by
    rw [List.map_append, map_eq_self fun t old => if_neg fun own =>
      h.task_ne old known₀ (own.trans own₀.symm)]
    refine congrArg _ (List.map_congr_left fun t known => ?_)
    by_cases own : t.id = r.task
    · rw [if_pos own, h.concludes now known own]
    · rw [if_neg own, failWith, if_neg fun both => own both.1]
  have queue : base.queue.filter (fun i => i.run ≠ r.id) = base.queue := by
    refine List.filter_eq_self.mpr fun i mem => decide_eq_true fun same => ?_
    obtain ⟨q, known, own⟩ := List.mem_map.mp (h.queued i mem)
    exact h.apart q (by simp [known]) (own.trans same)
  rw [Store.concluding, addWork, addWork]
  dsimp only
  rw [runs, tasks, queue]

/-- After that the **rest** is going to fail. -/
theorem step (h : Failing base a ts ended (r :: rest)) (now : Timestamp)
    (whole : ((base.addWork ts (ended ++ r :: rest)).concluding now r false).Integrity)
    (later : (base.addWork ts (ended ++ r :: rest)).Later
      ((base.addWork ts (ended ++ r :: rest)).concluding now r false)) :
    Failing base a (ts.map (failWith now r rest)) (ended ++ [endRun now false r]) rest := by
  rw [h.concluding now] at whole later
  refine ⟨whole, h.others, h.queued, ?_, ?_, ?_, ?_⟩
  · refine List.forall_mem_append.mpr ⟨h.closed, List.forall_mem_singleton.mpr ?_⟩
    simp [endRun]
  · exact fun q mem => h.opened q (List.mem_cons_of_mem _ mem)
  · intro q mem
    obtain ⟨t, known, own, unfinished⟩ := h.own q (List.mem_cons_of_mem _ mem)
    have same : failWith now r rest t = t := failWith_of_mem mem own.symm
    exact ⟨t, List.mem_map.mpr ⟨t, known, same⟩, own, unfinished⟩
  · exact fun q mem => (h.address q (List.mem_cons_of_mem _ mem)).later later

/-- When the rest has failed too, a task **has failed with them all**. -/
theorem failsWith {now : Timestamp} {ts' : List Task}
    (later : List.Forall₂ (Task.FailsWith rest) (ts.map (failWith now r rest)) ts') :
    List.Forall₂ (Task.FailsWith (r :: rest)) ts ts' := by
  refine (List.forall₂_map_left_iff.mp later).imp fun t t' h => ⟨?_, fun none => ?_⟩
  · rintro ⟨q, mem, own⟩
    by_cases last : ∀ q ∈ rest, q.task ≠ t.id
    · obtain rfl : q = r := (List.mem_cons.mp mem).resolve_right fun mem => last q mem own
      refine ⟨now, ?_⟩
      rw [h.spared (by rwa [failWith_id]), failWith, if_pos ⟨own.symm, last⟩]
    · push Not at last
      obtain ⟨q, mem, own⟩ := last
      have failed := h.failed ⟨q, mem, own.trans (failWith_id now r rest t).symm⟩
      rwa [failWith_of_mem mem own] at failed
  · obtain ⟨other, none⟩ := List.forall_mem_cons.mp none
    rw [h.spared (by rwa [failWith_id]), failWith, if_neg fun both => other both.1.symm]

end Failing

/-- A task with an address **has a target** with an owner, and that is the address. -/
theorem Integrity.target_of_addresses {s : Store} (whole : s.Integrity) {task : Id} {a : Address}
    (h : s.Addresses task a) : ∃ target owner, s.target task = .ok target ∧
      target.owner = some owner ∧ a = ⟨owner.token, target.repository.name, target.sha⟩ := by
  obtain ⟨t, known, rfl, ⟨repository, knownRepository, parent, -, user, knownUser, owns, -⟩, -⟩ :=
    id h
  obtain ⟨repository', knownRepository', x, -, ref, -, parent', -, -, found⟩ :=
    whole.target_found known
  obtain rfl : repository' = repository :=
    eq_of_key whole.repositories.nodup knownRepository' knownRepository (parent'.trans parent.symm)
  have owned : repository'.owner.bind s.user? = some user := by
    rw [owns]
    exact whole.user?_eq_some.mpr ⟨knownUser, rfl⟩
  exact ⟨_, user, found, owned, h.unique (whole.addresses_target found owned) whole⟩

end Store

/-! ### Failing runs -/

open Operation Picking

namespace Worker

/-- The notice that a run **has ended**. -/
def finishedNotice (a : Address) (success : Bool) (message : String) (r : Run) : Notification where
  token := a.token
  repository := a.repository
  sha := a.sha
  report := .finished r.id r.name success message

/-- Recording the status of an **open run** of an unfinished task, and giving notice of it. -/
theorem setStatus_open {s s' : Store} {tr : Trace} {r : Run} {t : Task} {a : Address}
    {success : Bool} {message : String} {res : Except OperationError Run}
    (h : (setStatus r.id success message).Ends s tr res s') (faultless : tr.Faultless)
    (whole : s.Integrity) (known : r ∈ s.runs) (unended : r.status = none) (knownTask : t ∈ s.tasks)
    (own : t.id = r.task) (unfinished : t.isFinished = false) (address : s.Addresses r.task a) :
    ∃ now, s' = s.concluding now r success ∧
      tr.notices = [finishedNotice a success message r] := by
  have finishing (now : Timestamp) :=
    whole.finishRun_open known unended knownTask own unfinished now success
  rcases ends_bind.mp h with ⟨e, failed, -⟩ | ⟨done, s₁, tr₁, tr₂, recorded, rest, rfl⟩
  · obtain ⟨cause, -, ⟨now, effect, -⟩ | ⟨-, rfl⟩⟩ := ends_store_error.mp failed
    · obtain ⟨result, run⟩ := finishing now
      cases run.symm.trans effect
    · exact absurd faultless Trace.not_faultless_fault
  · have whole₁ := recorded.integrity whole
    have address₁ := address.later (recorded.later whole)
    obtain ⟨now, effect, rfl⟩ := ends_store_ok.mp recorded
    obtain ⟨result, run⟩ := finishing now
    cases run.symm.trans effect
    obtain ⟨target, owner, found, owned, same⟩ := whole₁.target_of_addresses address₁
    rcases ends_bind.mp rest with ⟨e, impossible, -⟩ | ⟨reply, s₂, tr₃, tr₄, looked, last, rfl⟩
    · exact absurd impossible not_ends_tryStore_error
    · rcases ends_tryStore.mp looked with ⟨later, reply', effect, eq, rfl⟩ | ⟨e, rfl, eq, rfl⟩
      · cases eq
        obtain ⟨answer, rfl⟩ := Prod.mk.inj effect
        obtain rfl : reply = .ok target := answer.symm.trans found
        simp only [owned] at last
        rcases ends_bind.mp last with ⟨e, impossible, -⟩ | ⟨_, s₃, tr₅, tr₆, noticed, done, rfl⟩
        · exact absurd impossible not_ends_notify_error
        · obtain ⟨rfl, -, rfl⟩ := ends_notify.mp noticed
          obtain ⟨rfl, -, rfl⟩ := ends_pure.mp done
          exact ⟨now, rfl, by rw [same]; rfl⟩
      · simp at faultless

end Worker

namespace Intake

variable {base s s' : Store} {a : Address} {ts : List Task} {ended runs : List Run} {tr : Trace}
  {message : String}

/-- Failing runs **never fails** itself. -/
theorem not_ends_failRuns_error {e : OperationError} :
    ¬ (failRuns message runs).Ends s tr (.error e) s' := by
  induction runs generalizing s tr with
  | nil => exact fun h => nomatch (ends_pure.mp h).2.1
  | cons r rest ih =>
      intro h
      rcases ends_bind.mp h with ⟨e', impossible, -⟩ | ⟨_, _, _, _, -, later, -⟩
      · exact absurd impossible not_ends_attempt_error
      · exact ih later

/-- **All of the runs fail**, in this order, each with a notice. -/
theorem failRuns_failing {done : Except OperationError Unit}
    (h : (failRuns message runs).Ends (base.addWork ts (ended ++ runs)) tr done s')
    (faultless : tr.Faultless) (failing : Store.Failing base a ts ended runs) :
    ∃ ts' runs', s' = base.addWork ts' (ended ++ runs') ∧
      List.Forall₂ (Task.FailsWith runs) ts ts' ∧ List.Forall₂ Run.FailsAs runs runs' ∧
      tr.notices = runs.map (Worker.finishedNotice a false message) := by
  induction runs generalizing ts ended tr with
  | nil =>
      obtain ⟨rfl, -, rfl⟩ := ends_pure.mp h
      have same : List.Forall₂ (Task.FailsWith []) ts ts :=
        List.forall₂_same.mpr fun t _ => ⟨by simp, fun _ => rfl⟩
      exact ⟨ts, [], rfl, same, .nil, rfl⟩
  | cons r rest ih =>
      rcases ends_bind.mp h with ⟨e, impossible, -⟩ | ⟨outcome, s₁, tr₁, tr₂, first, later, rfl⟩
      · exact absurd impossible not_ends_attempt_error
      · have setting := ends_attempt_ok.mp first
        obtain ⟨faultless₁, faultless₂⟩ := Trace.faultless_append.mp faultless
        obtain ⟨t, known, own, unfinished⟩ := failing.own r List.mem_cons_self
        have whole₁ := setting.integrity failing.whole
        have later₁ := setting.later failing.whole
        obtain ⟨now, rfl, noticed⟩ := Worker.setStatus_open setting faultless₁ failing.whole
          (by simp [Store.addWork]) (failing.opened r List.mem_cons_self)
          (List.mem_append_right _ known) own unfinished (failing.address r List.mem_cons_self)
        have failing₁ := failing.step now whole₁ later₁
        rw [failing.concluding now] at later
        obtain ⟨ts', runs', rfl, tasks, failed, notices⟩ := ih later faultless₂ failing₁
        refine ⟨ts', Store.endRun now false r :: runs', by simp, Store.Failing.failsWith tasks,
          .cons ⟨now, rfl⟩ failed, ?_⟩
        rw [Trace.notices_append, noticed, notices]
        rfl

end Intake

/-! ### The notices of picking -/

namespace Operation

variable {α β : Type} {s s' : Store} {tr : Trace}

/-- What hands nothing over **gives no notice**. -/
theorem Ends.unnoticed {P : StoreCall → Prop} {Q : String → HostCall → Prop} {op : Operation α}
    {res : Except OperationError α} (h : op.Ends s tr res s') (makes : op.Makes P Q NoNotice) :
    tr.notices = [] :=
  List.eq_nil_iff_forall_not_mem.mpr (h.handed makes)

/-- What is done for each member of a list gives the **notices of each**, one after the other. -/
theorem Ends.mapM_notices {f : α → Operation β} (given : β → List Notification)
    (each : ∀ a {s s' : Store} {tr : Trace} {b : β}, (f a).Ends s tr (.ok b) s' →
      tr.notices = given b) {l : List α} {bs : List β} (h : (l.mapM f).Ends s tr (.ok bs) s') :
    tr.notices = (bs.map given).flatten := by
  induction l generalizing s tr bs with
  | nil =>
      obtain ⟨rfl, eq, -⟩ := ends_pure.mp h
      cases eq
      rfl
  | cons a l ih =>
      rw [List.mapM_cons] at h
      obtain ⟨b, s₁, tr₁, tr₂, first, rest, rfl⟩ := ends_bind_ok.mp h
      obtain ⟨bs', s₂, tr₃, tr₄, later, last, rfl⟩ := ends_bind_ok.mp rest
      obtain ⟨rfl, eq, rfl⟩ := ends_pure.mp last
      cases eq
      rw [Trace.notices_append, Trace.notices_append, each a first, ih later]
      simp [Trace.notices]

end Operation

namespace Picking

variable {r : Resolved} {s s' : Store} {tr : Trace}

/-- A run that is created gets a notice that it is **pending**. -/
theorem createRun_notices {task : Task} {dir : String} {settings : RunSettings} {run : Run}
    (h : (createRun r task dir settings).Ends s tr (.ok run) s') :
    tr.notices = [pendingNotice r run] := by
  rw [createRun] at h
  obtain ⟨run', s₁, tr₁, tr₂, stored, rest, rfl⟩ := ends_bind_ok.mp h
  have silent := stored.unnoticed (P := fun _ => True) (Q := fun _ _ => True)
    (makes_stage (makes_bind (makes_ofDomain _) fun _ => makes_store trivial))
  obtain ⟨_, s₂, tr₃, tr₄, noticed, last, rfl⟩ := ends_bind_ok.mp rest
  obtain ⟨rfl, -, rfl⟩ := ends_notify.mp noticed
  obtain ⟨rfl, eq, rfl⟩ := ends_pure.mp last
  cases eq
  rw [Trace.notices_append, silent]
  rfl

/-- With a task, all its runs get one. -/
theorem createTask_notices {submission : Submission} {dir : String} {settings : TaskSettings}
    {created : Task × List Run}
    (h : (createTask r submission dir settings).Ends s tr (.ok created) s') :
    tr.notices = created.2.map (pendingNotice r) := by
  rw [createTask] at h
  obtain ⟨t, s₁, tr₁, tr₂, stored, rest, rfl⟩ := ends_bind_ok.mp h
  have silent := stored.unnoticed (P := fun _ => True) (Q := fun _ _ => True)
    (makes_stage (makes_store trivial))
  obtain ⟨runs, s₂, tr₃, tr₄, made, last, rfl⟩ := ends_bind_ok.mp rest
  have pending := made.mapM_notices (fun run => [pendingNotice r run])
    fun _ _ _ _ _ => createRun_notices
  obtain ⟨rfl, eq, rfl⟩ := ends_pure.mp last
  cases eq
  rw [Trace.notices_append, Trace.notices_append, silent, pending, ← List.flatMap_def,
    ← List.map_eq_flatMap]
  simp [Trace.notices]

/-- **Picking** gives notice of the runs that it has picked, in the order in which they were
created, and of nothing else. -/
theorem pick_notices {limit : Nat} {picked : Picked}
    (h : (pick limit r).Ends s tr (.ok picked) s') :
    tr.notices = picked.runs.map (pendingNotice r) := by
  rw [pick_eq] at h
  obtain ⟨selected, s₁, tr₁, tr₂, chosen, rest, rfl⟩ := ends_bind_ok.mp h
  obtain ⟨x, s₂, tr₃, tr₄, recorded, filled, rfl⟩ := ends_bind_ok.mp rest
  obtain ⟨loaded, s₃, tr₅, tr₆, loads, last, rfl⟩ := ends_bind_ok.mp filled
  have choosing := chosen.unnoticed (makes_choose (P := fun _ => True) (Q := fun _ _ => True)
    trivial trivial)
  have recording := recorded.unnoticed (P := fun _ => True) (Q := fun _ _ => True)
    (makes_stage (makes_store trivial))
  have loading := loads.unnoticed (makes_lift (makes_load (P := fun _ => True)
    (Q := fun _ _ => True) (fun _ => trivial) limit selected))
  rw [Trace.notices_append, Trace.notices_append, Trace.notices_append, choosing, recording,
    loading]
  cases loaded with
  | error failure =>
      obtain ⟨-, e, impossible⟩ := refuse_ends last
      cases impossible
  | ok loaded =>
      obtain ⟨created, s₄, tr₇, tr₈, made, done, rfl⟩ := ends_bind_ok.mp last
      have pending := made.mapM_notices (fun one => one.2.map (pendingNotice r))
        fun _ _ _ _ _ => createTask_notices
      obtain ⟨rfl, eq, rfl⟩ := ends_pure.mp done
      cases eq
      rw [Trace.notices_append, pending]
      simp [Trace.notices, List.map_flatten, Function.comp_def]

end Picking

/-! ### Coming to an end -/

/-- Recording the status of a run is never cut off. -/
theorem Worker.setStatus_ensures (run : Id) (success : Bool) (message : String) (s : Store) :
    (setStatus run success message).Ensures (fun _ _ => True) s := by
  refine ensures_bind.mpr ((ensures_store _).mpr fun now => ?_)
  rcases StoreCall.run now (.finishRun run success) s with ⟨_ | done, s₁⟩
  · trivial
  · refine ensures_bind.mpr ((ensures_tryStore _).mpr fun now => ?_)
    rcases StoreCall.run now (.getTarget done.run.task) s₁ with ⟨_ | target, s₂⟩
    · trivial
    · dsimp only
      cases target.owner with
      | none => trivial
      | some owner => exact ensures_bind.mpr (ensures_notify.mpr trivial)

/-- What does not fail at first **fails later**. -/
theorem Trace.faults_later {tr tr' : Trace} {batch : List NewQueueItem}
    (none : ∀ call ∈ tr.faults, ∀ batch, call ≠ .enqueue batch)
    (only : (tr ++ tr').faults = [.enqueue batch]) : tr'.faults = [.enqueue batch] := by
  rw [Trace.faults_append] at only
  rcases List.append_eq_singleton_iff.mp only with ⟨-, rest⟩ | ⟨first, -⟩
  · exact rest
  · exact absurd rfl (none _ (by simp [first]) batch)

namespace Intake

/-- Failing runs is never cut off either. -/
theorem failRuns_ensures (message : String) (runs : List Run) (s : Store) :
    (failRuns message runs).Ensures (fun _ _ => True) s := by
  induction runs generalizing s with
  | nil => exact ensures_pure.mpr trivial
  | cons r rest ih =>
      refine ensures_bind.mpr (ensures_attempt.mpr ?_)
      exact (Worker.setStatus_ensures r.id false message s).mono fun _ s₁ _ => ih s₁

/-! ### A batch that is refused -/

variable {limit : Nat} {r : Resolved} {s s' : Store} {tr : Trace}

/-- Why picked runs fail that cannot be put on the queue. -/
def refusal (cause : StoreError) : String := "Canceled due to error: " ++ cause.message

/-- A submission whose runs cannot be put on the queue. -/
def refused (cause : StoreError) : OperationError :=
  (cause : OperationError).inStage "enqueueing runs"

/-- What is done with picked runs that cannot be put on the queue. -/
def refuse (p : Picked) (cause : StoreError) : Operation Submitted := do
  failRuns (refusal cause) p.runs
  stage "enqueueing runs" (fail cause)

/-- **They fail**, and then so does everything. -/
theorem refuse_ends {p : Picked} {cause : StoreError} {res : Except OperationError Submitted} :
    (refuse p cause).Ends s tr res s' ↔
      (failRuns (refusal cause) p.runs).Ends s tr (.ok ()) s' ∧ res = .error (refused cause) := by
  constructor
  · intro h
    rcases ends_bind.mp h with ⟨e, impossible, -⟩ | ⟨⟨⟩, s₁, tr₁, tr₂, failing, staged, rfl⟩
    · exact absurd impossible not_ends_failRuns_error
    rcases ends_stage.mp staged with ⟨submitted, impossible, -⟩ | ⟨e, failed, rfl⟩
    · cases (ends_fail.mp impossible).2.1
    · obtain ⟨rfl, eq, rfl⟩ := ends_fail.mp failed
      rw [List.append_nil, Except.error.inj eq, refused]
      exact ⟨failing, rfl⟩
  · rintro ⟨failing, rfl⟩
    have failed : (fail cause : Operation Submitted).Ends s' [] (.error cause) s' :=
      ends_fail.mpr ⟨rfl, rfl, rfl⟩
    exact ends_bind.mpr (.inr ⟨(), s', tr, [], failing,
      ends_stage_error.mpr ⟨_, failed, rfl⟩, (List.append_nil tr).symm⟩)

/-- That is what follows if the store fails when they are to be put there. -/
theorem lineUp_fault {p : Picked} {cause : StoreError} {res : Except OperationError Submitted} :
    (lineUp p).Ends s (.fault (.enqueue p.batch) cause :: tr) res s' ↔
      (refuse p cause).Ends s tr res s' := by
  constructor
  · intro h
    rcases ends_bind.mp h with ⟨e, impossible, -⟩ | ⟨reply, s₁, tr₁, tr₂, tried, last, split⟩
    · exact absurd impossible not_ends_tryStore_error
    rcases ends_tryStore.mp tried with ⟨now, _, -, eq, rfl⟩ | ⟨e, rfl, eq, rfl⟩
    · cases split
    · cases eq
      obtain ⟨same, rfl⟩ := List.cons.inj split
      obtain rfl : cause = e := (Event.fault.inj same).2
      exact last
  · intro h
    have tried : (tryStore (.enqueue p.batch)).Ends s [.fault (.enqueue p.batch) cause]
        (.ok (.error cause)) s := ends_tryStore.mpr (.inr ⟨cause, rfl, rfl, rfl⟩)
    exact ends_bind.mpr (.inr ⟨.error cause, s, _, tr, tried, h, rfl⟩)

/-- If no other call to the store fails, that is what **happens first**. -/
theorem lineUp_refused {p : Picked} {batch : List NewQueueItem}
    {res : Except OperationError Submitted} (h : (lineUp p).Ends s tr res s')
    (accepted : s.AcceptsBatch p.batch) (only : tr.faults = [.enqueue batch]) :
    ∃ (cause : StoreError) (after : Trace), tr = .fault (.enqueue p.batch) cause :: after ∧
      after.Faultless := by
  rcases ends_bind.mp h with ⟨e, impossible, -⟩ | ⟨reply, s₁, tr₁, tr₂, tried, last, rfl⟩
  · exact absurd impossible not_ends_tryStore_error
  rcases ends_tryStore.mp tried with ⟨now, _, effect, eq, rfl⟩ | ⟨cause, rfl, eq, rfl⟩
  · cases eq
    rcases Store.enqueue_cases p.batch s with ⟨no, -⟩ | ⟨-, shown, added, -⟩
    · exact absurd accepted no
    · cases added.symm.trans effect
      have reloading : Makes (fun call => ∀ batch, call ≠ .enqueue batch) (fun _ _ => True)
          AnyNotice (stage "reloading submission" (store (.getSubmission p.submission.id)) >>=
            fun submission => (pure ⟨submission, shown⟩ : Operation Submitted)) :=
        makes_bind (makes_stage (makes_store (by simp))) fun _ => makes_pure _
      have only : tr₂.faults = [.enqueue batch] := only
      have mem : StoreCall.enqueue batch ∈ tr₂.faults := by simp [only]
      exact absurd rfl (Program.Ends.faulted last reloading _ mem batch)
  · have both : StoreCall.enqueue p.batch :: tr₂.faults = [.enqueue batch] := by simpa using only
    exact ⟨cause, tr₂, rfl, Trace.faultless_iff_faults.mpr (List.cons_eq_cons.mp both).2⟩

/-- What remains of a submission whose batch **is refused**, when its tasks have been picked. -/
structure Refusal (r : Resolved) (base : Store) (picked : Picked) (cause : StoreError)
    (pending failing : Trace) (s' : Store) : Prop where
  fresh : Store.FreshWork picked.tasks picked.runs
  /-- Where the picked work was, it is still, but now it has failed. All else is the same. -/
  left : ∃ tasks runs, s' = base.addWork tasks runs ∧
    List.Forall₂ (Task.FailsWith picked.runs) picked.tasks tasks ∧
    List.Forall₂ Run.FailsAs picked.runs runs
  pending : pending.notices = picked.runs.map (pendingNotice r)
  failing : failing.notices =
    picked.runs.map (Worker.finishedNotice r.address false (refusal cause))

/-- How a refused batch is **made up for**. -/
inductive MakesUp (limit : Nat) (request : SubmissionRequest) (s : Store) (tr : Trace)
    (res : Except OperationError Submitted) (s' : Store) : Prop
  /-- The submission has been resolved and its tasks have been picked, and then the store fails.
  The picked runs fail, and the last notice is that nothing was started. -/
  | intro (r : Resolved) (s₀ : Store) (now : Timestamp) (picked : Picked) (cause : StoreError)
      (tr₁ tr₂ tr₃ : Trace)
      (split : tr = tr₁ ++ (tr₂ ++ .fault (.enqueue picked.batch) cause :: tr₃) ++
        [.notice (notStarted r (refused cause))])
      (resolved : (Resolution.resolve request).Ends s tr₁ (.ok r) s₀)
      (picks : (pick limit r).Ends s₀ tr₂ (.ok picked)
        ((s₀.addSubmission now (record r)).addWork picked.tasks picked.runs))
      (error : res = .error (refused cause))
      (remains : Refusal r (s₀.addSubmission now (record r)) picked cause tr₂ tr₃ s')

/-- What has been **resolved** rests on what is in the store. -/
theorem resolve_grounded {request : SubmissionRequest}
    (h : (Resolution.resolve request).Ends s tr (.ok r) s') (whole : s.Integrity) :
    r.Grounded s' := by
  obtain ⟨main, headSha, canceled, s₁, tr₁, tr₂, tr₃, surveyed, canceling, rfl⟩ :=
    Resolution.resolve_ends_ok h
  obtain ⟨-, -, found, -⟩ := Resolution.survey_ends_ok surveyed
  have grounded : r.Grounded s₁ := ⟨found.parent, found.head, Resolution.survey_owner surveyed⟩
  exact grounded.later (canceling.later (surveyed.integrity whole))

/-- The work that has been picked **is fit to fail**. -/
theorem pick_failing {now : Timestamp} {picked : Picked} {selected : List String}
    {loaded : Dictionary TaskSettings} {created : List (Task × List Run)}
    (h : (pick limit r).Ends s tr (.ok picked)
      ((s.addSubmission now (record r)).addWork picked.tasks picked.runs)) (whole : s.Integrity)
    (grounded : r.Grounded s) (fresh : Store.FreshWork picked.tasks picked.runs)
    (own : picked.submission.id = (s.newSubmission now (record r)).id)
    (picks : Picks r tr picked selected loaded created) :
    Store.Failing (s.addSubmission now (record r)) r.address picked.tasks [] picked.runs where
  whole := h.integrity whole
  others := whole.runTask
  queued := whole.itemRun
  closed := by simp
  opened run mem := (fresh.2 run mem).1.status
  own run mem := by
    obtain ⟨t, known, same⟩ := List.mem_map.mp (fresh.2 run mem).2
    exact ⟨t, known, same, by simp [Task.isFinished, (fresh.1 t known).finishedAt]⟩
  address run mem := by
    obtain ⟨t, known, same⟩ := List.mem_map.mp (fresh.2 run mem).2
    obtain ⟨_, -, recorded⟩ := picks.recordedTasks.exists_of_mem_right known
    have stored : s.newSubmission now (record r) ∈
        ((s.addSubmission now (record r)).addWork picked.tasks picked.runs).submissions :=
      List.mem_append_right _ (List.mem_singleton_self _)
    have address : r.Recorded picked.submission.id
        ((s.addSubmission now (record r)).addWork picked.tasks picked.runs) :=
      ⟨grounded.later (h.later whole), _, stored, own.symm, record_tested s now r⟩
    have known' : t ∈ ((s.addSubmission now (record r)).addWork picked.tasks picked.runs).tasks :=
      List.mem_append_right _ known
    rw [← same]
    exact address.addresses known' recorded.submission recorded.repository

/-- Once the tasks are picked, a refused batch leads **to an end**, whatever the cause. -/
theorem refused_ends {request : SubmissionRequest} {s₀ s₁ : Store} {picked : Picked}
    {tr₁ tr₂ : Trace} (resolved : (Resolution.resolve request).Ends s tr₁ (.ok r) s₀)
    (picks : (pick limit r).Ends s₀ tr₂ (.ok picked) s₁) (cause : StoreError) :
    ∃ (after : Trace) (s' : Store), after.Faultless ∧ (submit limit request).Ends s
      (tr₁ ++ (tr₂ ++ .fault (.enqueue picked.batch) cause :: after)) (.error (refused cause))
      s' := by
  obtain ⟨tr₃, done, s', failing, faultless⟩ :=
    (failRuns_ensures (refusal cause) picked.runs s₁).exists_ends
  cases done with
  | error e => exact absurd failing not_ends_failRuns_error
  | ok done =>
      have lined := lineUp_fault.mpr (refuse_ends.mpr ⟨failing, rfl⟩)
      have started : (start limit r).Ends s₀ (tr₂ ++ .fault (.enqueue picked.batch) cause :: tr₃)
          (.error (refused cause)) s' := by
        rw [start_eq]
        exact ends_bind.mpr (.inr ⟨picked, s₁, tr₂, _, ends_stage_ok.mpr picks, lined, rfl⟩)
      have noticed : (do notify (notStarted r (refused cause)); fail (refused cause) :
          Operation Submitted).Ends s' [.notice (notStarted r (refused cause))]
            (.error (refused cause)) s' :=
        ends_bind.mpr (.inr ⟨(), s', _, [], ends_notify.mpr ⟨rfl, rfl, rfl⟩,
          ends_fail.mpr ⟨rfl, rfl, rfl⟩, rfl⟩)
      have launched : (launch limit r).Ends s₀ _ (.error (refused cause)) s' :=
        ends_bind.mpr (.inr ⟨.error (refused cause), s', _, _, ends_attempt_ok.mpr started,
          noticed, rfl⟩)
      refine ⟨tr₃ ++ [.notice (notStarted r (refused cause))], s', by simpa using faultless, ?_⟩
      rw [submit_launch]
      exact ends_bind.mpr (.inr ⟨r, s₀, tr₁, _, ends_stage_ok.mpr resolved, launched, by simp⟩)

/-- If runs cannot be put on the queue and no other call to the store fails, **they fail**. -/
theorem start_refused {batch : List NewQueueItem} {res : Except OperationError Submitted}
    (whole : s.Integrity) (grounded : r.Grounded s) (h : (start limit r).Ends s tr res s')
    (only : tr.faults = [.enqueue batch]) :
    ∃ (now : Timestamp) (picked : Picked) (cause : StoreError) (tr₁ tr₂ : Trace),
      tr = tr₁ ++ .fault (.enqueue picked.batch) cause :: tr₂ ∧
      (pick limit r).Ends s tr₁ (.ok picked)
        ((s.addSubmission now (record r)).addWork picked.tasks picked.runs) ∧
      res = .error (refused cause) ∧
      Refusal r (s.addSubmission now (record r)) picked cause tr₁ tr₂ s' := by
  rw [start_eq] at h
  rcases ends_bind.mp h with ⟨e, staged, rfl⟩ | ⟨picked, s₁, tr₁, tr₂, staged, lined, rfl⟩
  · obtain ⟨cause, picking, -⟩ := ends_stage_error.mp staged
    exact absurd rfl (pick_faults picking _ (by simp [only]) batch)
  have picking := ends_stage_ok.mp staged
  have only₂ := Trace.faults_later (pick_faults picking) only
  rcases pick_ends picking with ⟨⟨e, impossible⟩, -⟩ |
    ⟨now, ts, rs, rfl, fresh, ⟨x, selected, loaded, created, eq, own, picks⟩ | ⟨⟨e, impossible⟩, -⟩⟩
  · cases impossible
  · cases eq
    have accepted := Store.acceptsBatch_addWork (picking.integrity whole) whole.itemRun
      (·.settings.queue)
    obtain ⟨cause, tr₃, rfl, silent⟩ := lineUp_refused lined accepted only₂
    obtain ⟨failing, rfl⟩ := refuse_ends.mp (lineUp_fault.mp lined)
    have fit := pick_failing picking whole grounded fresh own picks
    obtain ⟨tasks, runs, left, failedTasks, failedRuns, notices⟩ :=
      failRuns_failing failing silent fit
    exact ⟨now, ⟨x, ts, rs⟩, cause, tr₁, tr₃, rfl, picking, rfl, fresh,
      ⟨tasks, runs, left, failedTasks, failedRuns⟩, pick_notices picking, notices⟩
  · cases impossible

/-- The submission **is made up for** then. -/
theorem refused_makesUp {request : SubmissionRequest} {batch : List NewQueueItem}
    {res : Except OperationError Submitted} (whole : s.Integrity)
    (h : (submit limit request).Ends s tr res s') (only : tr.faults = [.enqueue batch]) :
    MakesUp limit request s tr res s' := by
  have resolving {tr : Trace} {res : Except OperationError Resolved} {s' : Store}
      (h : (Resolution.resolve request).Ends s tr res s') :
      ∀ call ∈ tr.faults, ∀ batch, call ≠ .enqueue batch := by
    rintro call mem batch rfl
    exact Program.Ends.faulted h (Resolution.makes_resolve request) _ mem
  rw [submit_launch] at h
  rcases ends_bind.mp h with ⟨e, staged, rfl⟩ | ⟨r, s₀, tr₁, tr₂, staged, rest, rfl⟩
  · obtain ⟨cause, failed, -⟩ := ends_stage_error.mp staged
    exact absurd rfl (resolving failed _ (by simp [only]) batch)
  have resolved := ends_stage_ok.mp staged
  have whole₀ := resolved.integrity whole
  have only₂ := Trace.faults_later (resolving resolved) only
  obtain ⟨tr₃, started, reported⟩ := launch_ends rest
  have only₃ : tr₃.faults = [.enqueue batch] := by
    rcases reported with ⟨-, rfl⟩ | ⟨e, -, rfl⟩
    · exact only₂
    · rw [Trace.faults_append] at only₂
      exact (List.append_nil _).symm.trans only₂
  obtain ⟨now, picked, cause, tr₄, tr₅, rfl, picking, rfl, remains⟩ :=
    start_refused whole₀ (resolve_grounded resolved whole) started only₃
  rcases reported with ⟨⟨submitted, impossible⟩, -⟩ | ⟨e, eq, rfl⟩
  · cases impossible
  · rw [← Except.error.inj eq]
    exact .intro r s₀ now picked cause tr₁ tr₄ tr₅ (by simp) resolved picking rfl remains

/-- **If the store refuses the batch** of a submission whose tasks have been picked, and fails in
nothing else, the submission comes to an end and is made up for. -/
theorem submit_makesUp (limit : Nat) (request : SubmissionRequest)
    (reachable : s.ReachableBy fun _ => True) :
    (∀ (r : Resolved) (s₀ s₁ : Store) (picked : Picked) (tr₁ tr₂ : Trace) (cause : StoreError),
      (Resolution.resolve request).Ends s tr₁ (.ok r) s₀ →
      (pick limit r).Ends s₀ tr₂ (.ok picked) s₁ →
      ∃ (after : Trace) (s' : Store), after.Faultless ∧ (submit limit request).Ends s
        (tr₁ ++ (tr₂ ++ .fault (.enqueue picked.batch) cause :: after)) (.error (refused cause))
        s') ∧
    ∀ (tr : Trace) (res : Except OperationError Submitted) (s' : Store)
      (batch : List NewQueueItem), (submit limit request).Ends s tr res s' →
      tr.faults = [.enqueue batch] → MakesUp limit request s tr res s' := by
  constructor
  · intro r s₀ s₁ picked tr₁ tr₂ cause resolved picks
    exact refused_ends resolved picks cause
  · intro tr res s' batch ends only
    exact refused_makesUp reachable.integrity ends only

/-- Two runs are picked, and the store refuses to put them on the queue. -/
theorem submit_makesUp_sample : Sample.store.ReachableBy (fun _ => True) ∧
    ∃ (tr : Trace) (batch : List NewQueueItem) (res : Except OperationError Submitted) (s' : Store),
      (submit 5 (Sample.request Sample.first)).Ends Sample.store tr res s' ∧
        tr.faults = [.enqueue batch] ∧ batch.length = 2 ∧
        MakesUp 5 (Sample.request Sample.first) Sample.store tr res s' := by
  obtain ⟨comesToEnd, makesUp⟩ :=
    submit_makesUp 5 (Sample.request Sample.first) (Sample.reachable fun _ => True)
  obtain ⟨r, σ, resolving, picking⟩ := Session.exists_of_succeeds
    (Resolution.resolve (Sample.request Sample.first))
    { Sample.failingOnce "queue.enqueue" 0 with faults := [] }
    (fun r σ => Session.succeeds (pick 5 r) σ fun picked _ => picked.runs.length = 2)
    (by decide +kernel)
  obtain ⟨picked, σ', picks, two⟩ := Session.exists_of_succeeds _ _ _ picking
  obtain ⟨tr₁, resolved, silent₁⟩ := Session.perform_ends resolving
  obtain ⟨none, silent₁⟩ := silent₁ rfl
  obtain ⟨tr₂, picked', silent₂⟩ := Session.perform_ends picks
  obtain ⟨tr₃, s', silent₃, ends⟩ := comesToEnd r σ.store σ'.store picked tr₁ tr₂ .missingRow
    resolved picked'
  have only : (tr₁ ++ (tr₂ ++ .fault (.enqueue picked.batch) .missingRow :: tr₃)).faults =
      [.enqueue picked.batch] := by
    rw [Trace.faults_append, Trace.faults_append, Trace.faults_fault,
      Trace.faultless_iff_faults.mp silent₁, Trace.faultless_iff_faults.mp (silent₂ none).2,
      Trace.faultless_iff_faults.mp silent₃]
    rfl
  have length : picked.batch.length = 2 := by
    rw [Picked.batch, List.length_map]
    exact of_decide_eq_true two
  exact ⟨Sample.reachable _, _, picked.batch, _, s', ends, only, length, makesUp _ _ s' _ ends only⟩

end Intake

end Dispatch
