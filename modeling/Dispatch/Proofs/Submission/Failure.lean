import Dispatch.Proofs.History
import Dispatch.Proofs.Interruption
import Dispatch.Proofs.Submission.Footing

/-!
# How submissions fail

Where the store does not fail, a submission that fails creates no work. If it fails while it is
processed, it has registered its fork and refs at most, and nothing has been handed over. If it
fails while its tasks are picked, earlier work has been canceled and the submission may have been
recorded, and the last thing to be handed over is that nothing was started.

## Main definitions

* `StoreCall.RegistersOnly`: a call that registers at most refs and repositories of one name.
* `Notification.IsAboutRun`: a notification that belongs to a run.
* `Store.Retains`: no work has been created.
* `Intake.SubmitFails`: how a submission fails.

## Main results

* `Resolution.makes_survey`: only the fork of a request is registered, and nothing handed over.
* `Resolution.makes_resolve`: only what is canceled is handed over.
* `Intake.submit_fails`: a submission that fails creates no work.
-/

namespace Dispatch

/-! ### Registering a fork -/

namespace StoreCall

/-- A call that at most registers refs, or repositories of the **given name**. -/
def RegistersOnly (name : String) : StoreCall → Prop
  | createRepository new => new.name = name
  | findOrCreateRef _ _ _ => True
  | call => call.IsLookup

variable {name : String} {call : StoreCall}

theorem IsLookup.registersOnly (h : call.IsLookup) : call.RegistersOnly name := by
  cases call <;> first | exact h.elim | trivial

theorem RegistersOnly.registers (h : call.RegistersOnly name) : call.Registers := by
  cases call <;> first | exact h.elim | trivial

theorem RegistersOnly.repositories (h : call.RegistersOnly name) (now : Timestamp) (s : Store) :
    ∀ x ∈ (call.run now s).2.repositories, x ∈ s.repositories ∨ x.name = name := by
  cases call with
  | createRepository new =>
      intro x mem
      rcases Store.createRepository_cases now new s with ⟨e, run⟩ | ⟨-, -, run⟩
      · rw [StoreCall.run, run] at mem
        exact .inl mem
      · rw [StoreCall.run, run, List.mem_append, List.mem_singleton] at mem
        refine mem.imp_right fun added => ?_
        rw [added]
        exact h
  | findOrCreateRef repository branch sha =>
      intro x mem
      have same : ((StoreCall.findOrCreateRef repository branch sha).run now s).2.repositories =
          s.repositories := by
        rcases Store.findOrCreateRef_cases repository branch sha s with
          ⟨e, run⟩ | ⟨_, -, run⟩ | ⟨-, -, -, run⟩
        · rw [StoreCall.run, run]
        · rw [StoreCall.run, run]
        · rw [StoreCall.run, run]
      exact .inl (same ▸ mem)
  | createUser | createSubmission | createTask | cancelTask | createRun | finishRun | enqueue
  | dequeue => exact h.elim
  | _ => exact fun x => .inl

end StoreCall

/-- Names of repositories are unique, so **one repository** is registered at most where all that are
have the same name. -/
theorem Store.Registered.atMostOne {s s' : Store} {name : String} (h : s.Registered s')
    (whole : s'.Integrity) (only : ∀ x ∈ s'.repositories, x ∈ s.repositories ∨ x.name = name) :
    s'.repositories = s.repositories ∨
      ∃ x, x.name = name ∧ s'.repositories = s.repositories ++ [x] := by
  obtain ⟨new, added⟩ := h.repositories
  have names := whole.repositoryNames
  rw [← added, List.map_append] at names
  obtain ⟨-, different, apart⟩ := List.nodup_append'.mp names
  have own (x : Repository) (mem : x ∈ new) : x.name = name := by
    refine (only x (added ▸ List.mem_append_right _ mem)).resolve_left fun old => ?_
    exact apart (List.mem_map_of_mem old) (List.mem_map_of_mem mem)
  match new with
  | [] => exact .inl (by rw [← added, List.append_nil])
  | [x] => exact .inr ⟨x, own x (by simp), added.symm⟩
  | x :: y :: rest =>
      have same : x.name = y.name := (own x (by simp)).trans (own y (by simp)).symm
      simp [same] at different

/-! ### Notifications about runs -/

/-- A notification that **belongs to a run**. -/
def Notification.IsAboutRun (n : Notification) : Prop := n.report.subject?.isSome = true

namespace Operation

/-- What is handed over **belongs to a kind** for whatever is put together from what hands over
nothing else. -/
theorem compositional_makes {P : StoreCall → Prop} {Q : String → HostCall → Prop}
    {N : Notification → Prop} (lookups : ∀ call : StoreCall, call.IsLookup → P call) :
    Compositional fun _ => Makes P Q N where
  pure := makes_pure
  fail := makes_fail
  bind := makes_bind
  attempt := makes_attempt
  lookup one := makes_store (lookups _ one)

end Operation

namespace Cancellation

open Operation

variable {Q : String → HostCall → Prop}

/-- The notifications of a **cancellation** belong to the runs that are canceled. -/
theorem makes_task (id : Id) :
    Makes StoreCall.AddsNoWork Q Notification.IsAboutRun (task id) := by
  refine makes_bind (makes_store trivial) fun runs => ?_
  refine makes_bind (makes_tryStore trivial) fun target => ?_
  cases target with
  | error e => exact makes_pure _
  | ok target =>
      cases owner : target.owner with
      | none => simp only [owner]; exact makes_pure _
      | some owner' =>
          simp only [owner]
          refine makes_bind ?_ fun _ => makes_pure _
          induction runs with
          | nil => exact makes_pure _
          | cons run rest ih => exact makes_bind (makes_notify rfl) fun _ => ih

theorem makes_ref (repository : Id) (name main : String) :
    Makes StoreCall.AddsNoWork Q Notification.IsAboutRun (ref repository name main) :=
  (compositional_makes fun _ lookup => lookup.addsNoWork).cancelRef makes_task repository name main

end Cancellation

/-! ### Resolving -/

namespace Resolution

open Operation

variable {s s' : Store} {tr : Trace}

/-- A request **keeps its fork** while it is put on its footing. -/
theorem yields_footing (request : SubmissionRequest) :
    (footing request).Yields fun f => f.request.fork = request.fork := by
  have submitting (valid : SubmissionRequest) :
      (submitter valid).Yields fun known => known.2.fork = valid.fork := by
    rw [submitter]
    split
    · exact yields_bind fun _ => yields_pure rfl
    · split
      · exact yields_bind fun _ => yields_pure rfl
      · exact yields_pure rfl
  have opens : (opening request).Yields fun known => known.2.fork = request.fork := by
    rw [opening]
    cases validated : request.validated with
    | error e => trivial
    | ok valid =>
        obtain ⟨same, -⟩ := validated_ok validated
        exact (submitting valid).mono fun known fork => fork.trans (by rw [same])
  exact opens.bind fun known fork => yields_bind fun parent => yields_bind fun token =>
    yields_pure fork

/-- Of all repositories, a **survey** registers the fork at most, and it hands over nothing. -/
theorem makes_survey (request : SubmissionRequest) :
    Makes (StoreCall.RegistersOnly request.fork) (fun _ _ => True) NoNotice (survey request) := by
  have lookups (call : StoreCall) (h : call.IsLookup) : call.RegistersOnly request.fork :=
    h.registersOnly
  rw [survey_eq, premises_eq, bind_assoc]
  refine makes_bind_yields (makes_footing lookups request fun _ _ => trivial)
    (yields_footing request) fun f fork => ?_
  rw [bind_assoc]
  refine makes_bind (makes_reportedMain f trivial) fun main => ?_
  have registers (new : NewRepository) (named : new.name = f.request.fork) :
      (StoreCall.createRepository new).RegistersOnly request.fork := named.trans fork
  refine makes_bind (makes_premisesFrom lookups f main (fun _ _ => trivial) registers) fun p => ?_
  exact makes_conclude lookups (fun _ _ _ => trivial) p (fun _ _ => trivial) trivial

/-- The only notifications of **resolving** are about runs that are canceled. -/
theorem makes_resolve (request : SubmissionRequest) :
    Makes StoreCall.AddsNoWork (fun _ _ => True) Notification.IsAboutRun (resolve request) := by
  rw [resolve_eq]
  have surveying : Makes StoreCall.AddsNoWork (fun _ _ => True) Notification.IsAboutRun
      (survey request) :=
    (makes_survey request).mono (fun _ only => only.registers.addsNoWork) (fun _ _ => id)
      fun _ => False.elim
  refine makes_bind surveying fun found => ?_
  refine makes_bind (makes_attempt (Cancellation.makes_ref _ _ _)) fun _ => ?_
  exact makes_bind (makes_tryHost trivial) fun _ => makes_pure _

/-- What fails to be **resolved** has registered the fork and refs at most, and nothing has been
handed over. -/
theorem resolve_fails {request : SubmissionRequest} {e : OperationError}
    (h : (resolve request).Ends s tr (.error e) s') (whole : s.Integrity) :
    s.Registered s' ∧ (s'.repositories = s.repositories ∨
      ∃ fork, fork.name = request.fork ∧ s'.repositories = s.repositories ++ [fork]) ∧
      tr.notices = [] := by
  have surveyed := resolve_ends_error h
  have registered := resolve_error h
  refine ⟨registered, registered.atMostOne (h.integrity whole) ?_, ?_⟩
  · refine Program.Ends.within
      (R := fun s s' => ∀ x ∈ s'.repositories, x ∈ s.repositories ∨ x.name = request.fork)
      (fun _ _ => .inl) (fun s₁ s₂ s₃ first second x mem => ?_)
      (fun call only now s => only.repositories now s) surveyed
      ((makes_survey request).calls (R := fun _ => True) fun _ _ _ => trivial)
    exact (second x mem).elim (first x) .inr
  · exact List.eq_nil_iff_forall_not_mem.mpr (surveyed.handed (makes_survey request))

end Resolution

/-! ### Submitting -/

/-- **No work** has been created: the tasks and runs are those that were there before, and what is
on the queue was on it before. -/
structure Store.Retains (s s' : Store) : Prop where
  tasks : s'.tasks.map (·.id) = s.tasks.map (·.id)
  runs : s'.runs.map (·.id) = s.runs.map (·.id)
  queue : ∀ i ∈ s'.queue, i ∈ s.queue

namespace Intake

open Operation Picking

variable {limit : Nat} {s s' : Store} {tr : Trace}

/-- How a submission **fails** where the store does not. -/
inductive SubmitFails (request : SubmissionRequest) (s : Store) (tr : Trace) (e : OperationError)
    (s' : Store) : Prop
  /-- It fails while it is processed. The fork may have been registered by then, and refs. -/
  | processing (cause : OperationError) (named : e = cause.inStage "processing submission")
      (failed : (Resolution.resolve request).Ends s tr (.error cause) s')
      (registered : s.Registered s')
      (fork : s'.repositories = s.repositories ∨
        ∃ fork, fork.name = request.fork ∧ s'.repositories = s.repositories ++ [fork])
      (silent : tr.notices = [])
  /-- It fails while its tasks are picked. By then it may have been recorded. The last thing that is
  handed over is that nothing was started. -/
  | picking (r : Resolved) (s₁ s₂ : Store) (tr₁ tr₂ : Trace) (cause : OperationError)
      (named : e = cause.inStage "picking tasks") (split : tr = tr₁ ++ tr₂)
      (resolved : (Resolution.resolve request).Ends s tr₁ (.ok r) s₂)
      (resolves : Resolves request r s s₁ s₂)
      (recorded : s' = s₂ ∨ ∃ now, s' = s₂.addSubmission now (record r))
      (notices : ∃ canceled : List Notification, tr.notices = canceled ++ [notStarted r e] ∧
        ∀ n ∈ canceled, n.IsAboutRun)

/-- Where the store does not fail, starting a submission fails while its tasks are **picked**, and
at most the submission has been recorded by then. -/
theorem start_fails {r : Resolved} {e : OperationError}
    (h : (start limit r).Ends s tr (.error e) s') (faultless : tr.Faultless) (whole : s.Integrity)
    (parent : r.parent ∈ s.repositories) :
    (∃ cause : OperationError, e = cause.inStage "picking tasks") ∧
      (s' = s ∨ ∃ now, s' = s.addSubmission now (record r)) ∧
      ∀ n ∈ tr.notices, n.IsAboutRun := by
  cases start_error h whole with
  | picking cause named fails =>
      refine ⟨⟨cause, named⟩, ?_, ?_⟩
      · rcases pick_ends fails with
          ⟨-, rfl⟩ | ⟨now, ts, rs, rfl, -, ⟨_, _, _, _, impossible, -⟩ | ⟨-, none⟩⟩
        · exact .inl rfl
        · cases impossible
        · obtain ⟨rfl, rfl⟩ := none faultless (List.mem_map_of_mem parent)
          exact .inr ⟨now, by simp⟩
      · have picking := makes_pick (r := r) (P := fun _ => True) (Q := fun _ _ => True)
          (N := Notification.IsAboutRun) (fun _ => trivial) (fun _ => trivial) (fun _ => trivial)
          trivial trivial (fun _ => trivial) (fun _ _ => trivial) (fun _ => rfl) limit
        exact fails.handed picking
  | queueing _ _ _ _ _ _ _ _ _ split _ =>
      subst split
      simp at faultless
  | showing _ _ _ _ _ _ _ split _ =>
      subst split
      simp at faultless

/-- **A submission that fails** creates no work where the store does not fail. -/
theorem submit_fails {request : SubmissionRequest} {e : OperationError}
    (reachable : s.ReachableBy fun _ => True) (h : (submit limit request).Ends s tr (.error e) s')
    (faultless : tr.Faultless) : s.Retains s' ∧ SubmitFails request s tr e s' := by
  have whole := reachable.integrity
  rw [submit_launch] at h
  rcases ends_bind.mp h with ⟨e', staged, eq⟩ | ⟨r, s₂, tr₁, tr₂, staged, rest, rfl⟩
  · cases eq
    obtain ⟨cause, failed, named⟩ := ends_stage_error.mp staged
    obtain ⟨registered, fork, silent⟩ := Resolution.resolve_fails failed whole
    refine ⟨⟨?_, ?_, ?_⟩, .processing cause named failed registered fork silent⟩
    · rw [registered.tasks]
    · rw [registered.runs]
    · rw [registered.queue]
      exact fun _ => id
  · have resolved := ends_stage_ok.mp staged
    obtain ⟨tr₃, started, ⟨⟨_, impossible⟩, -⟩ | ⟨_, eq, rfl⟩⟩ := launch_ends rest
    · cases impossible
    · cases eq
      simp only [Trace.faultless_append] at faultless
      obtain ⟨s₁, resolves⟩ := resolve_faultless resolved faultless.1 whole
      obtain ⟨⟨cause, named⟩, recorded, picked⟩ :=
        start_fails started faultless.2.1 (resolved.integrity whole) resolves.found.parent
      have canceled := resolved.handed (Resolution.makes_resolve request)
      obtain ⟨tasks, runs, queue⟩ :
          s'.tasks = s₂.tasks ∧ s'.runs = s₂.runs ∧ s'.queue = s₂.queue := by
        rcases recorded with rfl | ⟨now, rfl⟩ <;> exact ⟨rfl, rfl, rfl⟩
      refine ⟨⟨?_, ?_, ?_⟩, .picking r s₁ s₂ tr₁ _ cause named rfl resolved resolves recorded
        ⟨tr₁.notices ++ tr₃.notices, ?_, ?_⟩⟩
      · rw [tasks, resolves.cancels.tasks_map_id, resolves.registered.tasks]
      · rw [runs, resolves.cancels.runs_map_id, resolves.registered.runs]
      · rw [queue, ← resolves.registered.queue]
        exact resolves.cancels.queue_subset
      · rw [Trace.notices_append, Trace.notices_append, List.append_assoc]
        rfl
      · exact fun n mem => (List.mem_append.mp mem).elim (canceled n) (picked n)

end Intake

namespace Sample

/-- A session in which the second commit **declares no task that can be read**. -/
def unreadable : Session :=
  { session with
    host.files := [("*", second, "task.kdl", Text.encodeUtf8 "run"),
      ("*", "*", "task.kdl", Text.encodeUtf8 declaration)] }

end Sample

namespace Intake

/-- The task for the first commit is canceled, and the second one is recorded without a task. -/
theorem submit_fails_sample : ∃ (tr : Trace) (e : OperationError) (s s' : Store),
    (submit 5 (Sample.request Sample.second)).Ends s tr (.error e) s' ∧
      s.tasks.map (·.canceled) = [false] ∧ s'.tasks.map (·.canceled) = [true] ∧
      s'.submissions.length = 2 ∧ s.Retains s' ∧
      SubmitFails (Sample.request Sample.second) s tr e s' := by
  obtain ⟨_, σ, submitted, rest⟩ := Session.exists_of_succeeds
    (Demand.submit 5 (Sample.request Sample.first)).operation Sample.unreadable
    (fun _ σ => σ.store.tasks.map (·.canceled) = [false] &&
      Session.fails (submit 5 (Sample.request Sample.second)) σ fun _ σ =>
        σ.store.tasks.map (·.canceled) = [true] && σ.store.submissions.length = 2)
    (by decide +kernel)
  obtain ⟨before, rest⟩ := Bool.and_eq_true_iff.mp rest
  obtain ⟨e, σ', failed, after⟩ := Session.exists_of_fails _ _ _ rest
  obtain ⟨canceled, recorded⟩ := Bool.and_eq_true_iff.mp after
  obtain ⟨reached, silent⟩ := Store.ReachableBy.perform (σ := Sample.unreadable)
    (Sample.reachable fun _ => True) rfl (fun _ _ => trivial) submitted
  obtain ⟨tr, ends, faultless⟩ := Session.perform_ends failed
  exact ⟨tr, e, σ.store, σ'.store, ends, of_decide_eq_true before, of_decide_eq_true canceled,
    of_decide_eq_true recorded, submit_fails reached ends (faultless silent).2⟩

end Intake

end Dispatch
