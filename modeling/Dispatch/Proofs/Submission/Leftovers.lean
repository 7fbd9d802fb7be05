import Dispatch.Proofs.History
import Dispatch.Proofs.Interruption

/-!
# What a failed submission leaves behind

A submission that fails may have created runs by then. Where they cannot be put on the queue, they
fail as well, so that none waits for a place on the queue that it never gets. Nothing of the kind
happens where the store fails after the first run has been created and before the runs are put on
the queue, or after that when the submission is to be shown: then runs without a status remain.

## Main definitions

* `Trace.FailsMidway`: after a run has been created, the store fails elsewhere than at the queue.
* `Store.LeavesNone`: no run has been left behind.
* `Store.LeavesOpen`: one of the given runs has no status.

## Main results

* `Store.Integrity.leavesNone_iff`: no run is left behind exactly if those that have been added have
  got a status.
* `Picking.pick_failsMidway`: picking fails with a run created only where the store fails midway.
* `Intake.failRuns_ends`: runs that are to fail get a status.
* `Intake.submit_leavesNone`: when exactly a failed submission leaves no run behind.
* `Intake.failure_leavesRuns`: that it can leave runs behind, on the queue and not on it.
-/

namespace Dispatch

/-! ### Failing midway -/

namespace Trace

/-- After a run has been created, a call to the store **fails**, and not the one that puts runs on
the queue. -/
def FailsMidway (tr : Trace) : Prop :=
  ∃ (before : Trace) (call : StoreCall) (e : StoreError) (after : Trace),
    tr = before ++ .fault call e :: after ∧ before.createdRuns ≠ [] ∧
      ∀ batch, call ≠ .enqueue batch

variable {tr : Trace}

/-- What goes before the first run is created does not count, and neither does what follows the
last failure. -/
theorem failsMidway_within {tr₁ tr₂ : Trace} (none : tr₁.createdRuns = [])
    (silent : tr₂.faults = []) : (tr₁ ++ (tr ++ tr₂)).FailsMidway ↔ tr.FailsMidway := by
  constructor
  · rintro ⟨before, call, e, after, eq, created, other⟩
    rcases List.append_eq_append_iff.mp eq with ⟨before, rfl, eq'⟩ | ⟨between, rfl, -⟩
    · rw [createdRuns_append, none, List.nil_append] at created
      rcases List.append_eq_append_iff.mp eq' with ⟨between, rfl, rfl⟩ | ⟨between, rfl, eq''⟩
      · simp at silent
      · rcases List.cons_eq_append_iff.mp eq'' with ⟨rfl, rfl⟩ | ⟨rest, rfl, rfl⟩
        · simp at silent
        · exact ⟨before, call, e, rest, rfl, created, other⟩
    · rw [createdRuns_append] at none
      exact absurd (List.append_eq_nil_iff.mp none).1 created
  · rintro ⟨before, call, e, after, rfl, created, other⟩
    refine ⟨tr₁ ++ before, call, e, after ++ tr₂, by simp, fun none => created ?_, other⟩
    rw [createdRuns_append] at none
    exact (List.append_eq_nil_iff.mp none).2

/-- Where no run is created, nothing fails midway. -/
theorem not_failsMidway_of_none (none : tr.createdRuns = []) : ¬ tr.FailsMidway := by
  rintro ⟨before, call, e, after, rfl, created, -⟩
  rw [createdRuns_append] at none
  exact created (List.append_eq_nil_iff.mp none).1

/-- If only one call fails, and that puts runs on the queue, nothing fails midway. -/
theorem not_failsMidway_of_enqueue (once : tr.faults.length ≤ 1) {batch : List NewQueueItem}
    (queueing : .enqueue batch ∈ tr.faults) : ¬ tr.FailsMidway := by
  rintro ⟨before, call, e, after, rfl, -, other⟩
  rw [faults_append, faults_fault, List.length_append, List.length_cons] at once
  have none : before.faults = [] := List.length_eq_zero_iff.mp (by omega)
  have noneAfter : after.faults = [] := List.length_eq_zero_iff.mp (by omega)
  rw [faults_append, faults_fault, none, noneAfter] at queueing
  exact other batch (List.mem_singleton.mp queueing).symm

end Trace

/-! ### Leaving runs behind -/

namespace Store

variable {s s' : Store}

/-- Each run that is there only **afterwards** has a status, and none of them is on the queue. -/
def LeavesNone (s s' : Store) : Prop :=
  ∀ r ∈ s'.runs, (∀ q ∈ s.runs, q.id ≠ r.id) → r.status ≠ none ∧ ∀ i ∈ s'.queue, i.run ≠ r.id

instance (s s' : Store) : Decidable (s.LeavesNone s') :=
  inferInstanceAs (Decidable (∀ r ∈ s'.runs, _ → _))

/-- A run **has got a status**. -/
def Ended (s : Store) (id : Id) : Prop := ∃ r ∈ s.runs, r.id = id ∧ r.status.isSome = true

/-- One of the given runs **has no status**. -/
def LeavesOpen (s : Store) (runs : List Run) : Prop :=
  ∃ r ∈ s.runs, r.id ∈ runs.map (·.id) ∧ r.status = none

/-- Fresh runs have no status. -/
theorem LeavesOpen.of_fresh {ts : List Task} {created rs : List Run} (nonempty : created ≠ [])
    (own : created.map (·.id) = rs.map (·.id)) (fresh : FreshWork ts rs)
    (known : ∀ r ∈ rs, r ∈ s.runs) : s.LeavesOpen created := by
  obtain ⟨r, mem⟩ : ∃ r, r ∈ rs := List.exists_mem_of_ne_nil rs fun empty => nonempty (by
    rwa [empty, List.map_nil, List.map_eq_nil_iff] at own)
  exact ⟨r, known r mem, own ▸ List.mem_map_of_mem mem, (fresh.2 r mem).1.status⟩

theorem Continues.ended (c : s.Continues s') {id : Id} (h : s.Ended id) : s'.Ended id := by
  obtain ⟨r, known, own, ended⟩ := h
  obtain ⟨r', known', continues⟩ := c.runs r known
  exact ⟨r', known', continues.id.trans own, by rw [continues.status ended]; exact ended⟩

/-- There is one run with each identifier, so a run without a status **has not ended**. -/
theorem Integrity.not_ended (whole : s.Integrity) {r : Run} (known : r ∈ s.runs)
    (unended : r.status = none) : ¬ s.Ended r.id := by
  rintro ⟨r', known', own, ended⟩
  obtain rfl := whole.eq_of_run_id known' known own
  rw [unended] at ended
  cases ended

theorem Integrity.leavesOpen_not_ended (whole : s.Integrity) {runs : List Run}
    (h : s.LeavesOpen runs) : ¬ ∀ id ∈ runs.map (·.id), s.Ended id := by
  obtain ⟨r, known, mem, unended⟩ := h
  exact fun ended => whole.not_ended known unended (ended r.id mem)

/-- No run is left behind exactly if all that have been added **have got a status**: then they are
not on the queue either. -/
theorem Integrity.leavesNone_iff (whole : s'.Integrity) (coherent : s'.Coherent) {ids : List Id}
    (added : s'.runs.map (·.id) = s.runs.map (·.id) ++ ids) :
    s.LeavesNone s' ↔ ∀ id ∈ ids, s'.Ended id := by
  have apart := (List.nodup_append'.mp (added ▸ whole.runs.nodup)).2.2
  constructor
  · intro leaves id mem
    obtain ⟨r, known, rfl⟩ : ∃ r ∈ s'.runs, r.id = id :=
      List.mem_map.mp (added ▸ List.mem_append_right _ mem)
    have new : ∀ q ∈ s.runs, q.id ≠ r.id := fun q old same =>
      apart (List.mem_map_of_mem old) (same ▸ mem)
    exact ⟨r, known, rfl, Option.isSome_iff_ne_none.mpr (leaves r known new).1⟩
  · intro ended r known new
    have mem : r.id ∈ s.runs.map (·.id) ++ ids := added ▸ List.mem_map_of_mem known
    have fresh : r.id ∈ ids := (List.mem_append.mp mem).resolve_left fun old => by
      obtain ⟨q, old, same⟩ := List.mem_map.mp old
      exact new q old same
    have status : r.status ≠ none := fun none => whole.not_ended known none (ended _ fresh)
    exact ⟨status, fun i queued same => status (coherent.items i queued r known same.symm)⟩

/-- A run whose status is to be recorded **has one** afterwards, whether it is recorded or is in
conflict with an earlier one. -/
theorem Integrity.finishRun_ended (whole : s.Integrity) {r : Run} (known : r ∈ s.runs)
    (now : Timestamp) (status : Bool) : (finishRun now r.id status s).2.Ended r.id := by
  have found : s.run? r.id = some r := whole.run?_eq_some.mpr ⟨known, rfl⟩
  have ending {s' : Store} (runs : s'.runs = (s.ending now r.id status).runs) : s'.Ended r.id := by
    refine ⟨endRun now status r, ?_, rfl, rfl⟩
    rw [runs, ending_eq]
    exact List.mem_map.mpr ⟨r, known, if_pos rfl⟩
  rcases finishRun_cases now r.id status s with
    ⟨ended, e, run⟩ | ⟨_, -, -, ⟨-, e, run⟩ | ⟨_, -, -, run⟩ | ⟨_, _, -, -, -, run⟩⟩
  · rw [run]
    exact ⟨r, known, rfl, ended r found⟩
  · rw [run]
    exact ending rfl
  · rw [run]
    exact ending rfl
  · rw [run]
    exact ending rfl

end Store

namespace Picking

open Operation

variable {r : Resolved}

/-- **Picking** gives up when the store fails. -/
theorem givesUp_pick (limit : Nat) : (pick limit r).GivesUp := by
  rw [pick_eq]
  have choosing := makes_choose (r := r) (P := fun _ => False) (Q := fun _ _ => True)
    (N := NoNotice) trivial trivial
  refine givesUp_bind choosing.givesUp fun selected => ?_
  refine givesUp_bind (givesUp_stage (givesUp_store _)) fun submission => ?_
  have loading := makes_lift (makes_load (r := r) (P := fun _ => False) (Q := fun _ _ => True)
    (N := NoNotice) (fun _ => trivial) limit selected)
  refine givesUp_bind loading.givesUp fun outcome => ?_
  cases outcome with
  | error failure =>
      have complaining := makes_complain (r := r) (P := fun _ => False) (Q := fun _ _ => True)
        (N := NoNotice) failure.1 failure.2 fun _ _ => trivial
      exact givesUp_bind complaining.givesUp fun _ => givesUp_stage (givesUp_fail _)
  | ok loaded =>
      refine givesUp_bind (givesUp_mapM (fun entry => ?_) _) fun _ => givesUp_pure _
      refine givesUp_bind (givesUp_stage (givesUp_store _)) fun task => ?_
      refine givesUp_bind (givesUp_mapM (fun settings => ?_) _) fun _ => givesUp_pure _
      have checking (x : Except DomainError Unit) : (ofDomain x).GivesUp := by cases x <;> trivial
      refine givesUp_bind (givesUp_stage (givesUp_bind (checking _) fun _ => givesUp_store _))
        fun run => givesUp_bind ?_ fun _ => givesUp_pure _
      exact (makes_notify (P := fun _ => False) (Q := fun _ _ => True) (N := AnyNotice)
        trivial).givesUp

/-- Nothing is put on the queue while tasks are **picked**. -/
theorem pick_faults {limit : Nat} {s s' : Store} {tr : Trace} {res : Except OperationError Picked}
    (h : (pick limit r).Ends s tr res s') :
    ∀ call ∈ tr.faults, ∀ batch, call ≠ .enqueue batch := by
  have calls := makes_pick (r := r) (P := fun call => ∀ batch, call ≠ .enqueue batch)
    (Q := fun _ _ => True) (N := AnyNotice) (by simp) (by simp) (by simp) trivial trivial
    (fun _ => trivial) (fun _ _ => trivial) (fun _ => trivial) limit
  exact Program.Ends.faulted h calls

/-- What is added to the runs while tasks are **picked** is what is created. -/
theorem createdRuns_of_added {limit : Nat} {s s' : Store} {tr : Trace}
    {res : Except OperationError Picked} (h : (pick limit r).Ends s tr res s')
    (whole : s.Integrity) {rs : List Run} (added : s'.runs = s.runs ++ rs) :
    tr.createdRuns.map (·.id) = rs.map (·.id) := by
  have ids := Program.Ends.runs_map_id h whole
  rw [added, List.map_append] at ids
  exact (List.append_cancel_left ids).symm

/-- If runs have been created by the time that **picking** fails, then the store has failed midway,
and they have no status. -/
theorem pick_failsMidway {limit : Nat} {s s' : Store} {tr : Trace} {e : OperationError}
    (h : (pick limit r).Ends s tr (.error e) s') (whole : s.Integrity)
    (parent : r.parent ∈ s.repositories) (created : tr.createdRuns ≠ []) :
    tr.FailsMidway ∧ s'.LeavesOpen tr.createdRuns := by
  rcases pick_ends h with
    ⟨-, rfl⟩ | ⟨now, ts, rs, rfl, fresh, ⟨_, _, _, _, impossible, -⟩ | ⟨-, none⟩⟩
  · have own := createdRuns_of_added h whole (List.append_nil _).symm
    exact absurd (List.map_eq_nil_iff.mp own) created
  · cases impossible
  · have own := createdRuns_of_added h whole rfl
    refine ⟨?_, .of_fresh created own fresh fun q mem => List.mem_append_right _ mem⟩
    rcases h.givesUp (givesUp_pick limit) with faultless | ⟨before, call, e, rfl⟩
    · obtain ⟨-, rfl⟩ := none faultless (List.mem_map_of_mem parent)
      exact absurd (List.map_eq_nil_iff.mp own) created
    · refine ⟨before, call, e, [], rfl, fun empty => created ?_, pick_faults h call (by simp)⟩
      rw [Trace.createdRuns_append, empty]
      rfl

end Picking

namespace Intake

open Operation Picking

variable {limit : Nat} {s s' : Store} {tr : Trace}

/-- Unless the store fails, a run whose status is recorded **has one** afterwards. -/
theorem setStatus_ends {r : Run} {success : Bool} {message : String}
    {res : Except OperationError Run} (h : (Worker.setStatus r.id success message).Ends s tr res s')
    (faultless : tr.Faultless) (whole : s.Integrity) (known : r ∈ s.runs) : s'.Ended r.id := by
  have ended {now : Timestamp} {s₁ : Store} {reply : Except StoreError RunCompletion}
      (effect : (StoreCall.finishRun r.id success).run now s = (reply, s₁)) : s₁.Ended r.id := by
    have same : (Store.finishRun now r.id success s).2 = s₁ := congrArg Prod.snd effect
    exact same ▸ whole.finishRun_ended known now success
  rcases ends_bind.mp h with ⟨e, failed, -⟩ | ⟨completion, s₁, tr₁, tr₂, recorded, rest, rfl⟩
  · obtain ⟨cause, -, ⟨now, effect, -⟩ | ⟨-, rfl⟩⟩ := ends_store_error.mp failed
    · exact ended effect
    · exact absurd faultless Trace.not_faultless_fault
  · obtain ⟨now, effect, -⟩ := ends_store_ok.mp recorded
    have whole₁ := recorded.integrity whole
    exact (Program.Ends.continues rest whole₁).ended (ended effect)

/-- Unless the store fails, runs that are to **fail** have a status afterwards. -/
theorem failRuns_ends {message : String} {runs : List Run} {done : Except OperationError Unit}
    (h : (failRuns message runs).Ends s tr done s') (faultless : tr.Faultless) (whole : s.Integrity)
    (known : ∀ q ∈ runs, ∃ r ∈ s.runs, r.id = q.id) : ∀ q ∈ runs, s'.Ended q.id := by
  induction runs generalizing s tr with
  | nil => simp
  | cons q rest ih =>
      rcases ends_bind.mp h with ⟨e, impossible, -⟩ | ⟨outcome, s₁, tr₁, tr₂, first, later, rfl⟩
      · exact absurd impossible not_ends_attempt_error
      · have setting := ends_attempt_ok.mp first
        obtain ⟨faultless₁, faultless₂⟩ := Trace.faultless_append.mp faultless
        obtain ⟨⟨r, mem, same⟩, known⟩ := List.forall_mem_cons.mp known
        have whole₁ := setting.integrity whole
        have continues := Program.Ends.continues setting whole
        have ended : s₁.Ended q.id := by
          rw [← same] at setting ⊢
          exact setStatus_ends setting faultless₁ whole mem
        refine List.forall_mem_cons.mpr ⟨(Program.Ends.continues later whole₁).ended ended, ?_⟩
        refine ih later faultless₂ whole₁ fun q' mem' => ?_
        obtain ⟨r', known', same'⟩ := known q' mem'
        obtain ⟨r'', known'', continues'⟩ := continues.runs r' known'
        exact ⟨r'', known'', continues'.id.trans same'⟩

/-- If at most one call to the store fails, then the runs that have been created by the time that a
submission fails to be **started** have a status, unless the store has failed midway. -/
theorem startFails_ended {r : Resolved} {e : OperationError} (fails : StartFails limit r s tr e s')
    (whole : s.Integrity) (whole' : s'.Integrity) (parent : r.parent ∈ s.repositories)
    (once : tr.faults.length ≤ 1) :
    (∀ id ∈ tr.createdRuns.map (·.id), s'.Ended id) ↔ ¬ tr.FailsMidway := by
  by_cases none : tr.createdRuns = []
  · exact iff_of_true (by simp [none]) (Trace.not_failsMidway_of_none none)
  have left (midway : tr.FailsMidway) (unended : s'.LeavesOpen tr.createdRuns) :
      (∀ id ∈ tr.createdRuns.map (·.id), s'.Ended id) ↔ ¬ tr.FailsMidway :=
    iff_of_false (whole'.leavesOpen_not_ended unended) (not_not_intro midway)
  cases fails with
  | picking cause named fails =>
      obtain ⟨midway, unended⟩ := pick_failsMidway fails whole parent none
      exact left midway unended
  | queueing now picked tr₁ tr₂ cause message done fresh picks split failing =>
      subst split
      have own := createdRuns_of_added picks whole rfl
      have quiet := Program.Ends.createsNone (Q := fun _ => True) failing (calls_failRuns _ _)
      have silent : tr₂.Faultless := by
        rw [Trace.faults_append, Trace.faults_fault, List.length_append, List.length_cons] at once
        exact Trace.faultless_iff_faults.mpr (List.length_eq_zero_iff.mp (by omega))
      have ended := failRuns_ends failing silent (picks.integrity whole) fun q mem =>
        ⟨q, List.mem_append_right _ mem, rfl⟩
      have queueing : StoreCall.enqueue picked.batch ∈
          Trace.faults (tr₁ ++ .fault (.enqueue picked.batch) cause :: tr₂) := by simp
      refine iff_of_true ?_ (Trace.not_failsMidway_of_enqueue once queueing)
      rw [Trace.createdRuns_append, Trace.createdRuns_fault, quiet, List.append_nil, own]
      exact List.forall_mem_map.mpr ended
  | showing now picked tr₁ shown cause fresh picks split queued =>
      subst split queued
      have same : (tr₁ ++ [Event.store (.enqueue picked.batch) (.ok shown),
          .fault (.getSubmission picked.submission.id) cause]).createdRuns = tr₁.createdRuns := by
        rw [Trace.createdRuns_append]
        exact List.append_nil _
      rw [same] at left none ⊢
      refine left ⟨tr₁ ++ [.store (.enqueue picked.batch) (.ok shown)],
        .getSubmission picked.submission.id, cause, [], by simp, fun empty => none ?_, by simp⟩
        (.of_fresh none (createdRuns_of_added picks whole rfl) fresh fun q mem =>
          List.mem_append_right _ mem)
      rw [Trace.createdRuns_append] at empty
      exact (List.append_eq_nil_iff.mp empty).1

/-- **What a failed submission leaves behind.** If at most one call to the store fails, then a
submission that fails leaves no run behind, on the queue or without a status, unless the store has
failed midway; and then it does leave runs behind. -/
theorem submit_leavesNone {request : SubmissionRequest} {e : OperationError}
    (reachable : s.ReachableBy fun _ => True) (h : (submit limit request).Ends s tr (.error e) s')
    (once : tr.faults.length ≤ 1) : s.LeavesNone s' ↔ ¬ tr.FailsMidway := by
  have whole := reachable.integrity
  have whole' := h.integrity whole
  have coherent' := submit_coherent h whole reachable.coherent
  refine (whole'.leavesNone_iff coherent' (Program.Ends.runs_map_id h whole)).trans ?_
  rw [submit_launch] at h
  rcases ends_bind.mp h with ⟨e', staged, -⟩ | ⟨r, s₁, tr₁, tr₂, staged, rest, rfl⟩
  · have none := Program.Ends.createsNone staged (calls_stage (Resolution.calls_resolve request))
    exact iff_of_true (by simp [none]) (Trace.not_failsMidway_of_none none)
  · have resolved := ends_stage_ok.mp staged
    have whole₁ := resolved.integrity whole
    have parent := (Resolution.resolve_grounds resolved whole).1.parent.1
    have none := Program.Ends.createsNone resolved (Resolution.calls_resolve request)
    obtain ⟨tr₃, started, ⟨⟨_, impossible⟩, -⟩ | ⟨_, eq, rfl⟩⟩ := launch_ends rest
    · cases impossible
    · cases eq
      have created : (tr₁ ++ (tr₃ ++ [Event.notice (notStarted r e)])).createdRuns =
          tr₃.createdRuns := by
        rw [Trace.createdRuns_append, Trace.createdRuns_append, none]
        exact List.append_nil _
      have once₃ : tr₃.faults.length ≤ 1 := by
        simp only [Trace.faults_append, List.length_append] at once
        omega
      rw [created, Trace.failsMidway_within none rfl]
      exact startFails_ended (start_error started whole₁) whole₁ whole' parent once₃

end Intake

namespace Sample

/-- A task with two runs. -/
def twofold : String :=
  "mountpoint \"/src\"\ndefault-image \"rust:1\"\nrun \"lint\" \x7b\n  command \"cargo\"\n\x7d\n" ++
    "run \"test\" \x7b\n  command \"cargo\"\n\x7d\n"

/-- A session in which such a call to the store is to fail **once**, after so many that do not. -/
def failingOnce (call : String) (skip : Nat) : Session where
  step := 0
  store := store
  faults := [⟨call, none, skip, some 1, .missingRow⟩]
  host := { host with files := [("*", "*", "task.kdl", Text.encodeUtf8 twofold)] }
  calls := []
  channel := .new 10
  running := true

/-- The submission of a commit with two declared runs, in such a session, **fails** and meets with
no further failure of the store. -/
theorem failingOnce_ends (call : String) (skip : Nat) (p : Store → Bool)
    (h : Session.fails (Intake.submit 5 (request first)) (failingOnce call skip)
      (fun _ σ => p σ.store) = true) :
    ∃ (tr : Trace) (e : OperationError) (s' : Store),
      (Intake.submit 5 (request first)).Ends store tr (.error e) s' ∧ tr.faults.length ≤ 1 ∧
        p s' = true := by
  obtain ⟨e, σ, failed, meets⟩ := Session.exists_of_fails _ _ _ h
  obtain ⟨tr, ends, once⟩ := Session.perform_limited failed rfl
  exact ⟨tr, e, σ.store, ends, once, meets⟩

end Sample

namespace Intake

/-- If runs cannot be put on the queue, both fail, and the store has not failed midway. -/
theorem submit_leavesNone_sample : ∃ (tr : Trace) (e : OperationError) (s' : Store),
    (submit 5 (Sample.request Sample.first)).Ends Sample.store tr (.error e) s' ∧
      s'.runs.length = 2 ∧ Sample.store.LeavesNone s' ∧ ¬ tr.FailsMidway := by
  obtain ⟨tr, e, s', ends, once, meets⟩ := Sample.failingOnce_ends "queue.enqueue" 0
    (fun s' => s'.runs.length = 2 ∧ Sample.store.LeavesNone s') (by decide +kernel)
  obtain ⟨two, none⟩ := of_decide_eq_true meets
  exact ⟨tr, e, s', ends, two, none, (submit_leavesNone (Sample.reachable _) ends once).mp none⟩

/-- If the second run cannot be created, the first stays without a status and never gets to the
queue. If the submission cannot be shown in the end, both runs stay on the queue. -/
theorem failure_leavesRuns : Sample.store.ReachableBy (fun _ => True) ∧
    (∃ (tr : Trace) (e : OperationError) (s' : Store),
      (submit 5 (Sample.request Sample.first)).Ends Sample.store tr (.error e) s' ∧
        tr.faults.length ≤ 1 ∧ ¬ Sample.store.LeavesNone s' ∧ s'.queue = []) ∧
    ∃ (tr : Trace) (e : OperationError) (s' : Store),
      (submit 5 (Sample.request Sample.first)).Ends Sample.store tr (.error e) s' ∧
        tr.faults.length ≤ 1 ∧ ¬ Sample.store.LeavesNone s' ∧ s'.queue.length = 2 := by
  refine ⟨Sample.reachable _, ?_, ?_⟩
  · obtain ⟨tr, e, s', ends, once, meets⟩ := Sample.failingOnce_ends "runs.create" 1
      (fun s' => ¬ Sample.store.LeavesNone s' ∧ s'.queue = []) (by decide +kernel)
    exact ⟨tr, e, s', ends, once, of_decide_eq_true meets⟩
  · obtain ⟨tr, e, s', ends, once, meets⟩ := Sample.failingOnce_ends "submissions.get" 0
      (fun s' => ¬ Sample.store.LeavesNone s' ∧ s'.queue.length = 2) (by decide +kernel)
    exact ⟨tr, e, s', ends, once, of_decide_eq_true meets⟩

end Intake

end Dispatch
