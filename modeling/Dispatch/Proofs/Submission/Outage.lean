import Dispatch.Proofs.Outage
import Dispatch.Proofs.Submission.Policy

/-!
# Submissions and outages

Of the calls that taking in a submission makes to the code host, each essential one ends it when it
meets with an outage. The stages around the call add their names to the error, but the cause stays
what it was, and with it the kind: an outage is internal. The exception is the call for a task
declaration. It is made where only faults of declarations can be reported, so an outage is reported
as one, to the caller and on the pull request.

## Main results

* `Resolution.resolve_breaks`, `Picking.pick_breaks`, `Intake.submit_breaks`: an outage ends the
  operation, with the cause that is named for it.
* `Environment.submit_hindered`: what outages do to a submission.
-/

namespace Dispatch

open Operation

namespace Resolution

theorem ifFound_breaks (call : StoreCall) : (ifFound call).Breaks :=
  Makes.breaks (makes_ifFound trivial)

theorem manualParent_breaks (r : SubmissionRequest) : (manualParent r).Breaks := by
  rw [manualParent]
  split
  · exact breaks_fail _
  · refine breaks_bind (breaks_store _) fun user => ?_
    refine breaks_bind (breaks_host id) fun hosted => ?_
    refine breaks_bind (ifFound_breaks _) fun known => ?_
    cases known with
    | none => exact breaks_pure _
    | some known => exact breaks_pure _

theorem submitter_breaks (r : SubmissionRequest) : (submitter r).Breaks := by
  rw [submitter]
  split
  · exact breaks_bind (breaks_stage (manualParent_breaks r)) fun _ => breaks_pure _
  · split
    · exact breaks_bind (breaks_stage (ifFound_breaks _)) fun _ => breaks_pure _
    · exact breaks_pure _

theorem forkRepository_breaks (token : String) (parent : Repository) (name : String) :
    (forkRepository token parent name).Breaks := by
  refine breaks_bind (ifFound_breaks _) fun known => ?_
  cases known with
  | some known => exact breaks_pure _
  | none =>
      refine breaks_bind (breaks_host id) fun hosted => ?_
      refine breaks_bind (Makes.breaks (makes_tryStore trivial)) fun added => ?_
      split
      · exact breaks_pure _
      · exact breaks_store _
      · exact breaks_fail _

theorem forkOf_breaks (request : SubmissionRequest) (token : String) (parent : Repository)
    (mainBranch : String) : (forkOf request token parent mainBranch).Breaks := by
  rw [forkOf]
  split
  · exact breaks_pure _
  · have obtained := forkRepository_breaks token parent request.fork
    exact breaks_bind (breaks_stage (breaks_stage obtained)) fun _ => breaks_pure _

theorem sha_breaks (token repository revision : String) :
    (sha token repository revision).Breaks := by
  rw [sha]
  split
  · exact breaks_pure _
  · exact breaks_host id

theorem baseSha_breaks (token : String) (parent : Repository) (mainBranch base : String) :
    (baseSha token parent mainBranch base).Breaks := by
  rw [baseSha]
  split
  · exact breaks_stage (breaks_host id)
  · exact breaks_stage (sha_breaks _ _ _)

theorem premises_breaks (r : SubmissionRequest) : (premises r).Breaks := by
  have lookups : ∀ call : StoreCall, call.IsLookup → True := fun _ _ => trivial
  refine breaks_bind (breaks_stage (Makes.breaks (makes_ofDomain _))) fun request => ?_
  refine breaks_bind (submitter_breaks _) fun known => ?_
  refine breaks_bind (breaks_stage (Makes.breaks (makes_enabledParent lookups _))) fun parent => ?_
  refine breaks_bind (breaks_stage (Makes.breaks (makes_ownerToken lookups _))) fun token => ?_
  refine breaks_bind (breaks_stage (breaks_host id)) fun hosted => ?_
  refine breaks_bind (forkOf_breaks _ _ _ _) fun fork => ?_
  refine breaks_bind (breaks_stage (sha_breaks _ _ _)) fun headSha => ?_
  refine breaks_bind (baseSha_breaks _ _ _ _) fun baseSha => ?_
  exact breaks_bind (Makes.breaks (makes_comparedSha _ _ _ _)) fun baseSha => breaks_pure _

theorem refFor_breaks (token : String) (repository : Repository) (sha : String) :
    (refFor token repository sha).Breaks := by
  refine breaks_bind (ifFound_breaks _) fun known => ?_
  cases known with
  | some known => exact breaks_pure _
  | none =>
      refine breaks_bind (breaks_host id) fun names => ?_
      exact breaks_bind (Makes.breaks (makes_ofDomain _)) fun _ => breaks_store _

/-- A configuration that is **missing** is no fault, but one that cannot be read is. -/
theorem configuration_breaks (token repository mainBranch : String) :
    (configuration token repository mainBranch).Breaks := by
  have other : ¬ (HostCall.getFile repository ("refs/" ++ mainBranch)
      RepoConfig.fileName).ReadsDeclaration := by
    change Selection.fileName RepoConfig.fileName ≠ TaskDeclaration.fileName
    decide
  refine breaks_tryHost (fun e outage => ?_) fun reply => ?_
  · dsimp only
    rw [outage.isNotFound_eq, if_neg Bool.false_ne_true]
    exact ⟨e, rfl, (HostCall.blame_of_not_reads other).symm⟩
  · cases reply with
    | ok bytes => exact Makes.breaks (makes_ofConfig _)
    | error e =>
        dsimp only
        split
        · exact breaks_pure _
        · exact breaks_fail _

theorem survey_breaks (r : SubmissionRequest) : (survey r).Breaks := by
  rw [survey_eq]
  refine breaks_bind (premises_breaks r) fun p => ?_
  refine breaks_bind (breaks_stage (refFor_breaks _ _ _)) fun head => ?_
  refine breaks_bind (breaks_stage (refFor_breaks _ _ _)) fun base => ?_
  exact breaks_bind (breaks_stage (configuration_breaks _ _ _)) fun config => breaks_pure _

/-- Work is canceled and statuses are cleared **without regard to** the code host. -/
theorem resolve_breaks (r : SubmissionRequest) : (resolve r).Breaks := by
  rw [resolve_eq]
  refine breaks_bind (survey_breaks r) fun found => ?_
  refine breaks_bind (calls_attempt (Cancellation.calls_ref _ _ _)).breaks fun canceled => ?_
  have clearing : Asks (fun _ => True) (fun call => ¬ call.IsEssential)
      (tryHost found.1.token (.clearStatuses found.1.parent.name found.2.2)) := asks_tryHost id
  exact breaks_bind clearing.calls.breaks fun _ => breaks_pure _

end Resolution

namespace Picking

variable {r : Resolved}

/-- A declaration that could not be read is **taken for an invalid one**. -/
theorem loadOne_breaks (dir : String) : (loadOne r dir).Breaks fun call e res =>
    ∃ cause, res = .error cause ∧ call.blame e = .config cause := by
  refine ⟨fun reply => by cases reply <;> trivial, fun _ e outage => ⟨loadError dir e, rfl, ?_⟩⟩
  rw [HostCall.blame, if_pos (Selection.fileName_declarationPath dir), loadError,
    outage.isNotFound_eq, if_neg Bool.false_ne_true]

/-- An outage has been **taken for a fault** of the declaration of some directory. -/
def Mistakes (call : HostCall) (e : HostError) (loaded : Loaded) : Prop :=
  ∃ dir cause, loaded = .error (dir, cause) ∧ call.blame e = .config cause

theorem loadWaiting_breaks (limit : Nat) (waiting : List String) (seen : Directories)
    (loaded : Dictionary TaskSettings) :
    (loadWaiting r limit waiting seen loaded).Breaks Mistakes := by
  induction limit generalizing waiting seen loaded with
  | zero => cases waiting <;> trivial
  | succ limit ih =>
      cases waiting with
      | nil => trivial
      | cons dir waiting =>
          refine Program.Breaks.bind (loadOne_breaks dir) ?_ fun
            | .error e => trivial
            | .ok settings => ih _ _ _
          rintro call e _ ⟨cause, rfl, blamed⟩
          exact ⟨dir, cause, rfl, blamed⟩

theorem load_breaks (limit : Nat) (selected : Directories) :
    (load limit r selected).Breaks Mistakes := by
  refine Program.Breaks.bind (loadWaiting_breaks limit _ _ _) ?_ fun
    | .error e => trivial
    | .ok loaded => trivial
  rintro call e _ ⟨dir, cause, rfl, blamed⟩
  exact ⟨dir, cause, rfl, blamed⟩

/-- A complaint **comes to nothing** or to a comment. -/
theorem complain_halts (dir : String) (e : ConfigError) :
    Program.Halts (· = .ok ()) (complain r dir e).run := by
  rw [complain]
  split
  · exact ⟨id, fun _ => rfl⟩
  · exact rfl

theorem choose_breaks (r : Resolved) : (choose r).Breaks := by
  refine breaks_bind (breaks_stage (breaks_host id)) fun files => ?_
  refine breaks_bind (Makes.breaks (makes_ofConfig _)) fun tasks => ?_
  rw [selection_eq]
  split
  · exact breaks_pure _
  · refine breaks_bind ?_ fun changed =>
      breaks_bind (Makes.breaks (makes_ofConfig _)) fun _ => breaks_pure _
    rw [changes]
    split
    · exact breaks_pure _
    · exact breaks_stage (breaks_host id)

theorem fill_breaks (limit : Nat) (selected : Directories) (x : Submission) :
    (fill limit r selected x).Breaks := by
  refine breaks_lift (load_breaks limit selected) ?_ fun outcome => ?_
  · -- The fault that the outage was taken for is what the operation fails with.
    rintro call e _ ⟨dir, cause, rfl, blamed⟩
    refine Program.Halts.bind (complain_halts dir cause) ?_
    rintro _ rfl
    exact ⟨_, rfl, blamed.symm⟩
  · cases outcome with
    | error failure =>
        exact breaks_bind (complain_halts _ _).breaks fun _ => breaks_stage (breaks_fail _)
    | ok loaded =>
        refine breaks_bind (Makes.breaks (makes_mapM (fun entry => ?_) _)) fun _ => breaks_pure _
        exact makes_createTask (fun _ => trivial) (fun _ => trivial) (fun _ => trivial) x entry.1
          entry.2

theorem pick_breaks (limit : Nat) : (pick limit r).Breaks := by
  rw [pick_eq]
  refine breaks_bind (choose_breaks r) fun selected => ?_
  exact breaks_bind (breaks_stage (breaks_store _)) fun x => fill_breaks limit selected x

end Picking

namespace Intake

theorem lineUp_breaks (p : Picked) : (lineUp p).Breaks :=
  (calls_lineUp p (P := fun _ => True) (fun _ _ => trivial) trivial).breaks

theorem start_breaks (limit : Nat) (r : Resolved) : (start limit r).Breaks := by
  rw [start_eq]
  exact breaks_bind (breaks_stage (Picking.pick_breaks limit)) lineUp_breaks

/-- The failure of a submission is reported on the commit, and **is the failure** of the operation
as well. -/
theorem submit_breaks (limit : Nat) (request : SubmissionRequest) :
    (submit limit request).Breaks := by
  refine breaks_bind (breaks_stage (Resolution.resolve_breaks request)) fun resolved => ?_
  refine breaks_lift (start_breaks limit resolved) ?_ fun outcome => ?_
  · -- The notification is handed over, which is no call.
    rintro call e _ ⟨failure, rfl, cause⟩
    exact ⟨failure, rfl, cause⟩
  · cases outcome <;> trivial

end Intake

/-! ### What outages do to a submission -/

namespace Sample

/-- The code host when some calls do not get through to it. -/
def cutOff (lost : HostCall → Bool) (call : HostCall) : Except HostError call.Reply :=
  if lost call then .error (.request "connection refused") else host.lookUp call

theorem cutOff_hinders (lost : HostCall → Bool) :
    (environment (cutOff lost)).Hinders (environment host.lookUp) where
  store := rfl
  host token call outside := by
    by_cases h : lost call = true
    · exact .inr ⟨.request "connection refused", trivial, if_pos h⟩
    · exact .inl (congrArg (·, outside) (if_neg h))

/-- What comes of a submission on a code host. -/
def submitting (host : (call : HostCall) → Except HostError call.Reply) :
    Option (Except OperationError Submitted × Service Unit) :=
  Program.run ((environment host).surroundings idle) (Intake.submit 5 (request first)).run service

/-- When all calls get through, the submission **is taken in**. -/
theorem exists_submitted : ∃ (result : Submitted) (σ : Service Unit),
    submitting host.lookUp = some (.ok result, σ) := by
  have taken : (submitting host.lookUp).any (·.1.isOk) = true := by decide +kernel
  rcases run : submitting host.lookUp with _ | ⟨e | result, σ⟩
  · rw [run] at taken
    cases taken
  · rw [run] at taken
    cases taken
  · exact ⟨result, σ, rfl⟩

end Sample

namespace Environment

variable {η : Type} {env env' : Environment η} {limit : Nat} {request : SubmissionRequest}
  {answer : Except OperationError Submitted} {σ σ' : Service η}

/-- **An outage is an internal error, unless a task declaration was to be read.** Where calls to the
code host meet with outages, and everything else is as where they do not, a submission comes to the
same answer in the end, and has had the same effects; or it fails at an essential call that met with
an outage, the last one that it made. Then it fails as an internal error if the call was not for a
task declaration, and as an invalid one if it was. -/
theorem submit_hindered (hinders : env'.Hinders env) (c c' : Circumstances)
    (h : Program.run (env.surroundings c) (Intake.submit limit request).run σ =
      some (answer, σ')) :
    ∃ answer' τ, Program.run (env'.surroundings c') (Intake.submit limit request).run σ =
        some (answer', τ) ∧
      ((answer' = answer ∧ τ.core = σ'.core) ∨ ∃ call e failure, answer' = .error failure ∧
        env'.MetOutage call e τ.core ∧ failure.cause = call.blame e ∧
        failure.kind = if call.ReadsDeclaration then .invalid else .internal) := by
  obtain ⟨answer', τ, run, outcome⟩ := (Intake.submit_breaks limit request).run
    (Intake.submit_robust limit request) hinders c' rfl h
  refine ⟨answer', τ, run, outcome.imp_right ?_⟩
  rintro ⟨call, e, met, failure, failed, cause⟩
  have kind : failure.kind = (call.blame e).kind := congrArg Cause.kind cause
  exact ⟨call, e, failure, failed, met, cause, kind.trans (HostCall.kind_blame met.1)⟩

/-- The files of the head commit cannot be listed: the submission fails **as an internal error**. -/
theorem submit_hindered_sample : ∃ (lost : HostCall → Bool) (result : Submitted)
    (σ τ : Service Unit) (call : HostCall) (e : HostError) (failure : OperationError),
    (Sample.environment (Sample.cutOff lost)).Hinders (Sample.environment Sample.host.lookUp) ∧
    Sample.submitting Sample.host.lookUp = some (.ok result, σ) ∧
    Sample.submitting (Sample.cutOff lost) = some (.error failure, τ) ∧
    (Sample.environment (Sample.cutOff lost)).MetOutage call e τ.core ∧
    ¬ call.ReadsDeclaration ∧ failure.kind = .internal := by
  let lost : HostCall → Bool
    | .listFiles _ _ => true
    | _ => false
  have fails : (Sample.submitting (Sample.cutOff lost)).any (fun x =>
      match x.1 with
      | .error failure => failure.kind = .internal
      | .ok _ => false) = true := by decide +kernel
  obtain ⟨result, σ, taken⟩ := Sample.exists_submitted
  have hinders := Sample.cutOff_hinders lost
  obtain ⟨answer, τ, run, outcome⟩ := submit_hindered hinders Sample.idle Sample.idle taken
  rw [Sample.submitting, run] at fails
  rcases outcome with ⟨rfl, -⟩ | ⟨call, e, failure, rfl, met, -, kind⟩
  · cases fails
  · have inside : failure.kind = .internal := of_decide_eq_true fails
    refine ⟨lost, result, σ, τ, call, e, failure, hinders, taken, run, met, fun reads => ?_,
      inside⟩
    rw [if_pos reads, inside] at kind
    cases kind

/-- Only the calls for task declarations do not get through, and a submission that is taken in
otherwise is **refused as invalid**. -/
theorem submit_mistaken : ∃ (result : Submitted) (σ τ : Service Unit) (failure : OperationError),
    Sample.service.core.store.ReachableBy (fun _ => True) ∧
    (Sample.environment (Sample.cutOff fun call => call.ReadsDeclaration)).Hinders
      (Sample.environment Sample.host.lookUp) ∧
    Sample.submitting Sample.host.lookUp = some (.ok result, σ) ∧
    Sample.submitting (Sample.cutOff fun call => call.ReadsDeclaration) =
      some (.error failure, τ) ∧
    failure.cause = .config (.invalidValue "task.kdl"
      (HostError.request "connection refused").message) ∧
    failure.kind = .invalid ∧ failure.kind.statusCode = 400 := by
  have fails : (Sample.submitting (Sample.cutOff fun call => call.ReadsDeclaration)).any (fun x =>
      match x.1 with
      | .error failure => failure.cause = .config (.invalidValue "task.kdl"
          (HostError.request "connection refused").message)
      | .ok _ => false) = true := by decide +kernel
  obtain ⟨result, σ, taken⟩ := Sample.exists_submitted
  rcases run : Sample.submitting (Sample.cutOff fun call => call.ReadsDeclaration) with
    _ | ⟨failure | answer, τ⟩
  · rw [run] at fails
    cases fails
  · rw [run] at fails
    have cause := of_decide_eq_true fails
    have kind : failure.kind = .invalid := congrArg Cause.kind cause
    exact ⟨result, σ, τ, failure, Sample.reachable _, Sample.cutOff_hinders _, taken, rfl, cause,
      kind, congrArg ErrorKind.statusCode kind⟩
  · rw [run] at fails
    cases fails

end Environment

end Dispatch
