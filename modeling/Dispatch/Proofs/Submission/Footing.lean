import Dispatch.Proofs.Submission.Intake

/-!
# The footing of a submission

Before anything else is asked, a request is put on its footing: the enabled repository that it is
made against, and the credential of that repository's owner. All that is asked from then on is
asked under this credential, and nothing of it is about files until the main branch of the parent
is known.

## Main definitions

* `Resolution.opening`: validating a request and finding out who makes it.
* `Resolution.footing`: the parent and the credential that acts for it.
* `Resolution.reportedMain`: the main branch of the parent, as the code host reports it.
* `Intake.submitFrom`: what remains to be done from there on.
* `HostCall.ReadsPolicy`: a call for the contents of a configuration.

## Main results

* `Intake.submit_eq`: taking a submission in is putting it on its footing, and what remains.
* `Intake.makes_submitFrom`: what remains is asked under one credential, and among it is one call
  for a configuration.
-/

namespace Dispatch

namespace Resolution

open Operation

/-! ### Parts of resolving -/

/-- **Opening** a request: it is validated, and its submitter and its parent are found out. -/
def opening (r : SubmissionRequest) : Operation (Option User × SubmissionRequest) := do
  let request ← stage "validating submission" (ofDomain r.validated)
  submitter request

/-- What a submission **stands on**. -/
structure Footing where
  request : SubmissionRequest
  submitter : Option User
  parent : Repository
  /-- The credential of the parent's owner. -/
  token : String

/-- Puts a request **on its footing**. -/
def footing (r : SubmissionRequest) : Operation Footing := do
  let (submitter, request) ← opening r
  let parent ← stage "configuring repositories" (enabledParent request.parent)
  let token ← stage "obtaining owner client" (ownerToken parent)
  return { request, submitter, parent, token }

/-- The **main branch** of the parent: the one that the code host reports, or else the one that the
parent was registered with. -/
def reportedMain (f : Footing) : Operation String := do
  let hosted ← stage "reading parent repository from code host"
    (host f.token (.getRepository f.parent.name))
  return Git.mainBranch (hosted.defaultBranch.or f.parent.defaultBranch)

/-- The premises of a request that stands on its footing. -/
def premisesFrom (f : Footing) (mainBranch : String) : Operation Premises := do
  let (fork, forkMainBranch) ← forkOf f.request f.token f.parent mainBranch
  let headSha ← stage "resolving head" (sha f.token fork.name f.request.head)
  let baseSha ← baseSha f.token f.parent mainBranch f.request.base
  let baseSha ← comparedSha f.parent fork headSha baseSha
  return {
    request := f.request, submitter := f.submitter, parent := f.parent, fork, token := f.token,
    mainBranch, forkMainBranch, headSha, baseSha }

/-- Resolving from the survey on: what is made pointless is canceled. -/
def settle : Resolved × String × String → Operation Resolved
  | (found, main, headSha) => do
    let _ ← attempt (Cancellation.ref found.fork.id found.head.name main)
    let _ ← tryHost found.token (.clearStatuses found.parent.name headSha)
    return found

theorem premises_eq (r : SubmissionRequest) :
    premises r = footing r >>= fun f => reportedMain f >>= premisesFrom f := by
  simp only [premises, footing, opening, reportedMain, premisesFrom, bind_assoc, pure_bind]

/-- Resolving a request that stands on its footing. -/
def resolveFrom (f : Footing) (mainBranch : String) : Operation Resolved := do
  let p ← premisesFrom f mainBranch
  let found ← conclude p
  settle found

/-- **Resolving** is putting the request on its footing, and what remains. -/
theorem resolve_split (r : SubmissionRequest) :
    resolve r = footing r >>= fun f => reportedMain f >>= resolveFrom f := by
  rw [resolve_eq, survey_eq, premises_eq]
  simp only [bind_assoc]
  rfl

/-- The call for **the policy** of a repository: for the contents of the configuration in its main
branch. -/
def policyCall (parent : Repository) (mainBranch : String) : HostCall :=
  .getFile parent.name ("refs/" ++ mainBranch) RepoConfig.fileName

/-! ### What is called -/

section Makes

variable {P : StoreCall → Prop} {Q : String → HostCall → Prop} {N : Notification → Prop}
  (lookups : ∀ call : StoreCall, call.IsLookup → P call)

include lookups in
theorem makes_opening (r : SubmissionRequest)
    (gate : ∀ token name, Q token (.getRepository name)) : Makes P Q N (opening r) :=
  makes_bind (makes_stage (makes_ofDomain _)) fun request =>
    makes_submitter lookups request fun token => gate token request.fork

include lookups in
/-- On the way to its footing, a request is about **repositories** only. -/
theorem makes_footing (r : SubmissionRequest)
    (gate : ∀ token name, Q token (.getRepository name)) : Makes P Q N (footing r) := by
  refine makes_bind (makes_opening lookups r gate) fun known => ?_
  refine makes_bind (makes_stage (makes_enabledParent lookups _)) fun parent => ?_
  exact makes_bind (makes_stage (makes_ownerToken lookups _)) fun token => makes_pure _

theorem makes_reportedMain (f : Footing) (asks : Q f.token (.getRepository f.parent.name)) :
    Makes P Q N (reportedMain f) :=
  makes_bind (makes_stage (makes_host asks)) fun _ => makes_pure _

include lookups in
theorem makes_premisesFrom (f : Footing) (mainBranch : String)
    (identifies : ∀ call : HostCall, call.Identifies → Q f.token call)
    (registers : ∀ new, new.name = f.request.fork → P (.createRepository new)) :
    Makes P Q N (premisesFrom f mainBranch) := by
  refine makes_bind (makes_forkOf lookups identifies _ _ _ registers) fun fork => ?_
  refine makes_bind (makes_stage (makes_sha identifies _ _)) fun headSha => ?_
  refine makes_bind (makes_baseSha identifies _ _ _) fun baseSha => ?_
  exact makes_bind (makes_comparedSha _ _ _ _) fun compared => makes_pure _

/-- What the premises have from the **footing**. -/
theorem yields_premisesFrom (f : Footing) (mainBranch : String) :
    (premisesFrom f mainBranch).Yields fun p =>
      p.parent = f.parent ∧ p.token = f.token ∧ p.mainBranch = mainBranch :=
  yields_bind fun _ => yields_bind fun _ => yields_bind fun _ => yields_bind fun _ =>
    yields_pure ⟨rfl, rfl, rfl⟩

theorem yields_conclude (p : Premises) :
    (conclude p).Yields fun found => found.1.parent = p.parent ∧ found.1.token = p.token :=
  yields_bind fun _ => yields_bind fun _ => yields_bind fun _ => yields_pure ⟨rfl, rfl⟩

theorem yields_settle (found : Resolved × String × String) :
    (settle found).Yields fun r => r = found.1 :=
  yields_bind fun _ => yields_bind fun _ => yields_pure rfl

/-- What has been resolved has its credential from the **footing**. -/
theorem yields_resolveFrom (f : Footing) (mainBranch : String) :
    (resolveFrom f mainBranch).Yields fun r => r.token = f.token :=
  (yields_premisesFrom f mainBranch).bind fun p own => (yields_conclude p).bind fun found same =>
    (yields_settle found).mono fun r eq => by rw [eq, same.2, own.2.1]

/-- Work is canceled without asking the code host, and then the statuses are **cleared**. -/
theorem makes_settle (found : Resolved × String × String)
    (cancels : ∀ call : StoreCall, call.AddsNoWork → P call)
    (clears : Q found.1.token (.clearStatuses found.1.parent.name found.2.2)) :
    Makes P Q AnyNotice (settle found) := by
  have canceling := (Cancellation.calls_ref (Q := fun _ => False) found.1.fork.id
    found.1.head.name found.2.1).makes (Q := Q)
  refine makes_bind (makes_attempt (canceling.mono cancels (fun _ _ => id) fun _ => id)) fun _ => ?_
  exact makes_bind (makes_tryHost clears) fun _ => makes_pure _

end Makes

end Resolution

/-! ### From the footing on -/

/-- A call for the contents of a **configuration**, wherever it is. -/
def HostCall.ReadsPolicy : HostCall → Prop
  | getFile _ _ path => Selection.fileName path = RepoConfig.fileName
  | _ => False

theorem HostCall.Describes.not_readsPolicy {call : HostCall} (h : call.Describes) :
    ¬ call.ReadsPolicy := by
  cases call <;> first | exact h.elim | exact id

namespace Picking

open Operation

variable {r : Resolved} {K : HostCall → Prop}
  (others : ∀ call : HostCall, ¬ call.ReadsPolicy → K call)

include others in
/-- Declarations are read, but **no configuration**. -/
theorem makes_pick_own (limit : Nat) :
    Makes (fun _ => True) (Under r.token K) AnyNotice (pick limit r) := by
  have own {call : HostCall} (other : ¬ call.ReadsPolicy) : Under r.token K r.token call :=
    ⟨rfl, others call other⟩
  refine makes_pick (fun _ => trivial) (fun _ => trivial) (fun _ => trivial) (own id) (own id)
    (fun dir => own ?_) (fun _ _ => own id) (fun _ => trivial) limit
  rw [HostCall.ReadsPolicy, Selection.fileName_declarationPath]
  decide

end Picking

namespace Intake

open Operation Resolution

/-- Taking in a submission from its **footing** on. -/
def submitFrom (limit : Nat) (f : Footing) (mainBranch : String) : Operation Submitted := do
  let resolved ← stage "processing submission" (resolveFrom f mainBranch)
  launch limit resolved

/-- **Taking a submission in** is putting it on its footing, and what remains. -/
theorem submit_eq (limit : Nat) (request : SubmissionRequest) :
    submit limit request = stage "processing submission" (footing request) >>= fun f =>
      stage "processing submission" (reportedMain f) >>= submitFrom limit f := by
  rw [submit_launch, resolve_split]
  simp only [stage_bind, bind_assoc]
  rfl

variable {K : HostCall → Prop} (others : ∀ call : HostCall, ¬ call.ReadsPolicy → K call)

include others in
/-- From its resolution on, a submission needs **no configuration** any more. -/
theorem makes_launch (limit : Nat) (r : Resolved) :
    Makes (fun _ => True) (Under r.token K) AnyNotice (launch limit r) := by
  have starting : Makes (fun _ => True) (Under r.token K) AnyNotice (start limit r) := by
    rw [start_eq]
    exact makes_bind (makes_stage (Picking.makes_pick_own others limit)) fun p =>
      (calls_lineUp p (fun _ _ => trivial) trivial).makes
  refine makes_bind (makes_attempt starting) fun outcome => ?_
  cases outcome with
  | ok submitted => exact makes_pure _
  | error e => exact makes_bind (makes_notify trivial) fun _ => makes_fail _

/-- What may be asked from the footing on: under the credential of the parent's owner, and of all
configurations only **the policy** of the parent. -/
abbrev Faithful (f : Footing) (mainBranch : String) : String → HostCall → Prop :=
  Under f.token fun call => call.ReadsPolicy → call = policyCall f.parent mainBranch

theorem makes_resolveFrom (f : Footing) (mainBranch : String) :
    Makes StoreCall.AddsNoWork (Faithful f mainBranch) AnyNotice (resolveFrom f mainBranch) := by
  have describes (call : HostCall) (h : call.Describes) : Faithful f mainBranch f.token call :=
    ⟨rfl, fun reads => absurd reads h.not_readsPolicy⟩
  have lookups (call : StoreCall) (h : call.IsLookup) := h.addsNoWork
  refine makes_bind_yields (makes_premisesFrom lookups f mainBranch
    (fun call one => describes call one.describes) fun _ _ => trivial)
    (yields_premisesFrom f mainBranch) fun p ⟨parent, token, main⟩ => ?_
  rw [← token] at describes
  refine makes_bind_yields (makes_conclude lookups (fun _ _ _ => trivial) p describes
    ⟨token, fun _ => ?_⟩) (yields_conclude p) fun found own => ?_
  · rw [policyCall, parent, main]
  · exact makes_settle found (fun _ => id) ⟨own.2.trans token, False.elim⟩

/-- From the **footing** on, all that is asked is asked under the credential of the parent's owner,
and of all configurations only the policy of the parent is read. -/
theorem makes_submitFrom (limit : Nat) (f : Footing) (mainBranch : String) :
    Makes (fun _ => True) (Faithful f mainBranch) AnyNotice (submitFrom limit f mainBranch) := by
  have resolving : Makes (fun _ => True) (Faithful f mainBranch) AnyNotice
      (resolveFrom f mainBranch) :=
    (makes_resolveFrom f mainBranch).mono (fun _ _ => trivial) (fun _ _ => id) fun _ => id
  refine makes_bind_yields (makes_stage resolving)
    (yields_stage (yields_resolveFrom f mainBranch)) fun r token => ?_
  rw [Faithful, ← token]
  exact makes_launch (fun call other reads => absurd reads other) limit r

end Intake

end Dispatch
