import Dispatch.Proofs.Submission.Premises

/-!
# Resolving a request

Resolving has two parts. The survey finds out what the request is about; all it does to the store
is that a repository and refs may be registered. Then the work that the new submission makes
pointless is canceled, and this is where the main branch of the fork matters.

A commit has one ref, named when the commit was first seen. This name, and not the revision that
the request gives, decides what a submission is for.

## Main definitions

* `Resolved.forkMainBranch`: the main branch of the fork.
* `Resolution.survey`: resolving without cancellation.
* `Resolved.premises`: the premises of what has been resolved.

## Main results

* `Resolution.resolve_eq`: resolving is a survey and then cancellation.
* `Resolution.refFor_ok`: how the ref for a commit is named.
* `Resolution.survey_ok`: what a survey finds is in the store.
* `Resolution.resolve_grounds`: what has been resolved rests on its premises.
-/

namespace Dispatch

/-! ### The survey -/

/-- The full name of the **main branch of the fork**. -/
def Resolved.forkMainBranch (r : Resolved) : String :=
  if r.request.fork = r.parent.name then r.mainBranch else r.fork.mainBranch

/-- What has been resolved is **in the store**, and the refs are of its repositories. -/
structure Resolved.Found (r : Resolved) (s : Store) : Prop where
  parent : r.parent ∈ s.repositories
  fork : r.fork ∈ s.repositories
  head : r.head ∈ s.refs
  base : r.base ∈ s.refs
  headRepository : r.head.repository = r.fork.id
  baseRepository : r.base.repository = r.parent.id

/-- The **premises** of what has been resolved. -/
def Resolved.premises (r : Resolved) : Resolution.Premises where
  request := r.request
  submitter := r.submitter
  parent := r.parent
  fork := r.fork
  token := r.token
  mainBranch := r.mainBranch
  forkMainBranch := r.forkMainBranch
  headSha := r.head.sha
  baseSha := r.base.sha

namespace Resolution

open Operation

/-- The **survey**: resolving without cancellation. It also answers with the main branch of the
fork and the head commit. -/
def survey (r : SubmissionRequest) : Operation (Resolved × String × String) := do
  let request ← stage "validating submission" (ofDomain r.validated)
  let (submitter, request) ← submitter request
  let parent ← stage "configuring repositories" (enabledParent request.parent)
  let token ← stage "obtaining owner client" (ownerToken parent)
  let hosted ← stage "reading parent repository from code host"
    (host token (.getRepository parent.name))
  let mainBranch := Git.mainBranch (hosted.defaultBranch.or parent.defaultBranch)
  let (fork, forkMainBranch) ← forkOf request token parent mainBranch
  let headSha ← stage "resolving head" (sha token fork.name request.head)
  let baseSha ← baseSha token parent mainBranch request.base
  let baseSha ← comparedSha parent fork headSha baseSha
  let head ← stage "managing head ref" (refFor token fork headSha)
  let base ← stage "managing base ref" (refFor token parent baseSha)
  let config ← stage "loading repository configuration"
    (configuration token parent.name mainBranch)
  return ({ request, parent, fork, token, base, head, submitter, config, mainBranch },
    forkMainBranch, headSha)

/-- **Resolving** is a survey, and then the cancellation of what is made pointless. -/
theorem resolve_eq (r : SubmissionRequest) : resolve r = survey r >>= fun (found, main, headSha) =>
    attempt (Cancellation.ref found.fork.id found.head.name main) >>= fun _ =>
      tryHost found.token (.clearStatuses found.parent.name headSha) >>= fun _ => pure found := by
  simp only [resolve, survey, bind_assoc, pure_bind]
  refine bind_congr fun valid => bind_congr fun known => bind_congr fun parent => ?_
  refine bind_congr fun token => bind_congr fun hosted => ?_
  by_cases same : known.2.fork = parent.name
  · simp only [forkOf, if_pos same, pure_bind]
  · simp only [forkOf, if_neg same, bind_assoc, pure_bind]

/-- The survey from its premises on: the refs of the commits, and the configuration. -/
def conclude (p : Premises) : Operation (Resolved × String × String) := do
  let head ← stage "managing head ref" (refFor p.token p.fork p.headSha)
  let base ← stage "managing base ref" (refFor p.token p.parent p.baseSha)
  let config ← stage "loading repository configuration"
    (configuration p.token p.parent.name p.mainBranch)
  return (⟨p.request, p.parent, p.fork, p.token, base, head, p.submitter, config, p.mainBranch⟩,
    p.forkMainBranch, p.headSha)

theorem survey_eq (r : SubmissionRequest) : survey r = premises r >>= conclude := by
  simp only [survey, premises, conclude, bind_assoc, pure_bind]

/-! ### What the survey calls -/

section Makes

variable {P : StoreCall → Prop} {Q : String → HostCall → Prop} {N : Notification → Prop}
  {token : String} (lookups : ∀ call : StoreCall, call.IsLookup → P call)
  (describes : ∀ call : HostCall, call.Describes → Q token call)
  (registers : ∀ repository name sha, P (.findOrCreateRef repository name sha))

include lookups describes registers in
theorem makes_refFor (repository : Repository) (sha : String) :
    Makes P Q N (refFor token repository sha) := by
  refine makes_bind (makes_ifFound (lookups _ trivial)) fun known => ?_
  cases known with
  | some known => exact makes_pure _
  | none =>
      refine makes_bind (makes_host (describes _ trivial)) fun names => ?_
      exact makes_bind (makes_ofDomain _) fun _ => makes_store (registers _ _ _)

/-- The configuration is read from **one place**. -/
theorem makes_configuration {repository mainBranch : String}
    (reads : Q token (.getFile repository ("refs/" ++ mainBranch) RepoConfig.fileName)) :
    Makes P Q N (configuration token repository mainBranch) := by
  refine makes_bind (makes_tryHost reads) fun reply => ?_
  cases reply with
  | ok bytes => exact makes_ofConfig _
  | error e =>
      dsimp only
      split
      · exact makes_pure _
      · exact makes_fail _

include lookups registers in
theorem makes_conclude (p : Premises)
    (describes : ∀ call : HostCall, call.Describes → Q p.token call)
    (reads : Q p.token (.getFile p.parent.name ("refs/" ++ p.mainBranch) RepoConfig.fileName)) :
    Makes P Q N (conclude p) := by
  have named (repository : Repository) (sha : String) :=
    makes_refFor (N := N) lookups describes registers repository sha
  refine makes_bind (makes_stage (named _ _)) fun head => ?_
  refine makes_bind (makes_stage (named _ _)) fun base => ?_
  exact makes_bind (makes_stage (makes_configuration reads)) fun config => makes_pure _

end Makes

theorem asks_refFor (token : String) (repository : Repository) (sha : String) :
    Asks StoreCall.Registers HostCall.IsEssential (refFor token repository sha) :=
  (makes_refFor (fun _ => StoreCall.IsLookup.registers) (Q := fun _ => HostCall.Describes)
    (fun _ => id) (fun _ _ _ => trivial) repository sha).asks fun _ _ =>
      HostCall.Describes.isEssential

theorem asks_configuration (token repository mainBranch : String) :
    Asks StoreCall.Registers HostCall.IsEssential (configuration token repository mainBranch) :=
  (makes_configuration (Q := fun _ => HostCall.IsEssential) trivial).asks fun _ _ => id

theorem asks_conclude (p : Premises) :
    Asks StoreCall.Registers HostCall.IsEssential (conclude p) :=
  (makes_conclude (fun _ => StoreCall.IsLookup.registers) (fun _ _ _ => trivial) p
    (Q := fun _ => HostCall.IsEssential) (fun _ => HostCall.Describes.isEssential)
    trivial).asks fun _ _ => id

/-- The survey **registers** at most. -/
theorem asks_survey (r : SubmissionRequest) :
    Asks StoreCall.Registers HostCall.IsEssential (survey r) := by
  rw [survey_eq]
  have supposing := (asks_premises r).mono (fun _ one => one.registers) fun _ => id
  exact asks_bind supposing asks_conclude

/-- Resolving **adds no work**. -/
theorem calls_resolve (r : SubmissionRequest) :
    Calls StoreCall.AddsNoWork Anything (resolve r) := by
  rw [resolve_eq]
  refine calls_bind ((asks_survey r).calls.mono (fun _ registers => registers.addsNoWork)
    fun _ _ => trivial) fun found => ?_
  refine calls_bind (calls_attempt (Cancellation.calls_ref _ _ _)) fun _ => ?_
  exact calls_bind (asks_tryHost trivial).calls fun _ => calls_pure _

/-! ### What the survey finds -/

variable {s s' : Store} {tr : Trace}

theorem refFor?_mem {repository : Id} {sha : String} {ref : Ref}
    (h : s.refFor? repository sha = some ref) :
    ref ∈ s.refs ∧ ref.repository = repository ∧ ref.sha = sha := by
  have same := List.find?_some h
  rw [Bool.and_eq_true, decide_eq_true_eq, decide_eq_true_eq] at same
  exact ⟨List.mem_of_find?_eq_some h, same⟩

/-- The **ref for a commit** is the one that has been recorded for it, or else a new one with the
first of the names that the code host gives the commit. -/
theorem refFor_ok {token sha : String} {repository : Repository} {found : Ref}
    (h : (refFor token repository sha).Ends s tr (.ok found) s') :
    (found ∈ s'.refs ∧ found.repository = repository.id ∧ found.sha = sha) ∧
      (s.refFor? repository.id sha = some found ∨
        ∃ names, .host token (.getRefs repository.name sha) (.ok names) ∈ tr ∧
          found.name = firstOr sha names) := by
  obtain ⟨known, s₁, tr₁, tr₂, first, rest, rfl⟩ := ends_bind_ok.mp h
  obtain ⟨rfl, looked, -⟩ := ifFound_ok first trivial
  cases known with
  | some ref =>
      obtain ⟨-, eq, rfl⟩ := ends_pure.mp rest
      cases eq
      obtain ⟨now, answer⟩ := looked found rfl
      have recorded := Store.expect_eq_ok.mp answer
      exact ⟨refFor?_mem recorded, .inl recorded⟩
  | none =>
      obtain ⟨names, s₂, _, tr₄, asked, later, rfl⟩ := ends_bind_ok.mp rest
      obtain ⟨rfl, rfl⟩ := ends_host_ok.mp asked
      obtain ⟨_, s₃, _, tr₆, validated, last, rfl⟩ := ends_bind_ok.mp later
      obtain ⟨rfl, -, rfl⟩ := ends_ofDomain_ok.mp validated
      obtain ⟨now, effect, -⟩ := ends_store_ok.mp last
      rcases Store.findOrCreateRef_cases repository.id (firstOr sha names) sha s₃ with
        ⟨e, failed⟩ | ⟨ref, known, found'⟩ | ⟨-, -, -, added⟩
      · cases failed.symm.trans effect
      · cases found'.symm.trans effect
        exact ⟨refFor?_mem known, .inl known⟩
      · cases added.symm.trans effect
        refine ⟨⟨?_, rfl, rfl⟩, .inr ⟨names, by simp, rfl⟩⟩
        exact List.mem_append_right _ (List.mem_singleton_self _)

/-- How the **head** of a submission is named: as it has been recorded, or else by the first name
that the code host gives the commit. -/
def NamesHead (r : Resolved) (s : Store) (tr : Trace) : Prop :=
  s.refFor? r.fork.id r.head.sha = some r.head ∨
    ∃ names, .host r.token (.getRefs r.fork.name r.head.sha) (.ok names) ∈ tr ∧
      r.head.name = firstOr r.head.sha names

theorem NamesHead.mono {r : Resolved} {tr' : Trace} (h : NamesHead r s tr) (more : tr ⊆ tr') :
    NamesHead r s tr' :=
  h.imp_right fun ⟨names, asked, eq⟩ => ⟨names, more asked, eq⟩

/-- What a **survey** rests on, how it names the head, and what of it is in the store. -/
theorem survey_ends_ok {request : SubmissionRequest} {r : Resolved} {main headSha : String}
    (h : (survey request).Ends s tr (.ok (r, main, headSha)) s') :
    r.premises.RestOn request s tr s' ∧ NamesHead r s tr ∧ r.Found s' ∧ s.Registered s' ∧
      main = r.forkMainBranch := by
  rw [survey_eq] at h
  obtain ⟨p, s₁, tr₁, _, supposed, rest₁, rfl⟩ := ends_bind_ok.mp h
  obtain ⟨head, s₂, tr₂, _, headed, rest₂, rfl⟩ := ends_bind_ok.mp rest₁
  obtain ⟨base, s₃, tr₃, _, based, rest₃, rfl⟩ := ends_bind_ok.mp rest₂
  obtain ⟨config, s₄, tr₄, tr₅, configured, last, rfl⟩ := ends_bind_ok.mp rest₃
  obtain ⟨-, eq, rfl⟩ := ends_pure.mp last
  cases eq
  have grounds := premises_ok supposed
  obtain ⟨before, sameRefs⟩ := supposed.registeredRepository (asks_premises request).calls
  obtain ⟨⟨headKnown, headRepository, headSha⟩, named⟩ := refFor_ok (ends_stage_ok.mp headed)
  obtain ⟨⟨baseKnown, baseRepository, baseSha⟩, -⟩ := refFor_ok (ends_stage_ok.mp based)
  have toHead : s₁.Registered s₂ := headed.registered (asks_stage (asks_refFor _ _ _)).calls
  have toBase : s₂.Registered s₃ := based.registered (asks_stage (asks_refFor _ _ _)).calls
  have toEnd : s₃.Registered s' :=
    configured.registered (asks_stage (asks_configuration _ _ _)).calls
  have after : s₁.Registered s' := toHead.trans (toBase.trans toEnd)
  have kept := after.repositories.subset
  obtain ⟨request', submitter, parent, fork, token, mainBranch, forkMain, _, _⟩ := p
  obtain rfl := headSha
  obtain rfl := baseSha
  obtain rfl : forkMain = if request'.fork = parent.name then mainBranch else fork.mainBranch :=
    grounds.forkMainBranch
  refine ⟨grounds.mono (by simp) kept, ?_, ⟨?_, ?_, ?_, ?_, ?_, ?_⟩, before.trans after, rfl⟩
  · refine named.imp (fun recorded => ?_) fun ⟨names, asked, eq⟩ => ⟨names, ?_, eq⟩
    · rw [← recorded, Store.refFor?, Store.refFor?, sameRefs]
    · simp [asked]
  · exact kept grounds.parent.1
  · exact kept grounds.fork.1
  · exact (toBase.trans toEnd).refs.subset headKnown
  · exact toEnd.refs.subset baseKnown
  · exact headRepository
  · exact baseRepository

/-- The credential that a survey finds is that of the **parent's owner**. -/
theorem survey_owner {request : SubmissionRequest} {r : Resolved} {main headSha : String}
    (h : (survey request).Ends s tr (.ok (r, main, headSha)) s') :
    ∃ owner ∈ s'.users, r.parent.owner = some owner.id ∧ r.token = owner.token := by
  rw [survey_eq] at h
  obtain ⟨p, s₁, tr₁, _, supposed, concluded, rfl⟩ := ends_bind_ok.mp h
  have users : s'.users = s₁.users := (concluded.registered (asks_conclude p).calls).users
  have grounds := premises_owner supposed
  rw [← users] at grounds
  obtain ⟨head, s₂, tr₂, _, -, rest₁, rfl⟩ := ends_bind_ok.mp concluded
  obtain ⟨base, s₃, tr₃, _, -, rest₂, rfl⟩ := ends_bind_ok.mp rest₁
  obtain ⟨config, s₄, tr₄, _, -, last, rfl⟩ := ends_bind_ok.mp rest₂
  obtain ⟨-, eq, -⟩ := ends_pure.mp last
  cases eq
  exact grounds

/-- What a **survey** finds is in the store, and it finds the main branch of the fork. -/
theorem survey_ok {request : SubmissionRequest} {r : Resolved} {main headSha : String}
    (h : (survey request).Ends s tr (.ok (r, main, headSha)) s') :
    r.Found s' ∧ s.Registered s' ∧ main = r.forkMainBranch ∧
      r.request.pullRequest = request.pullRequest := by
  obtain ⟨grounds, -, found, registered, main⟩ := survey_ends_ok h
  exact ⟨found, registered, main, congrArg (·.pullRequest) grounds.completed⟩

/-! ### From the survey on -/

/-- What has been resolved was surveyed, and then what it makes pointless was canceled as far as
that was possible. -/
theorem resolve_ends_ok {request : SubmissionRequest} {r : Resolved}
    (h : (resolve request).Ends s tr (.ok r) s') : ∃ main headSha canceled s₁ tr₁ tr₂ tr₃,
      (survey request).Ends s tr₁ (.ok (r, main, headSha)) s₁ ∧
      (Cancellation.ref r.fork.id r.head.name main).Ends s₁ tr₂ canceled s' ∧
      tr = tr₁ ++ (tr₂ ++ tr₃) := by
  rw [resolve_eq] at h
  obtain ⟨⟨found, main, headSha⟩, s₁, tr₁, _, surveyed, rest, rfl⟩ := ends_bind_ok.mp h
  obtain ⟨canceled, s₂, tr₂, _, canceling, last, rfl⟩ := ends_bind_ok.mp rest
  obtain ⟨reply, s₃, tr₃, _, cleared, done, rfl⟩ := ends_bind_ok.mp last
  obtain ⟨rfl, eq, rfl⟩ := ends_pure.mp done
  cases eq
  obtain ⟨_, rfl, -, -⟩ := ends_tryHost.mp cleared
  exact ⟨main, headSha, canceled, s₁, tr₁, tr₂, _, surveyed, ends_attempt_ok.mp canceling, rfl⟩

/-- What fails to be resolved fails **in the survey**. -/
theorem resolve_ends_error {request : SubmissionRequest} {e : OperationError}
    (h : (resolve request).Ends s tr (.error e) s') : (survey request).Ends s tr (.error e) s' := by
  rw [resolve_eq] at h
  rcases ends_bind.mp h with ⟨e', failed, eq⟩ | ⟨⟨found, main, headSha⟩, s₁, _, _, -, rest, -⟩
  · cases eq
    exact failed
  · rcases ends_bind.mp rest with ⟨e', impossible, -⟩ | ⟨canceled, s₂, _, _, -, last, -⟩
    · exact absurd impossible not_ends_attempt_error
    · rcases ends_bind.mp last with ⟨e', impossible, -⟩ | ⟨cleared, s₃, _, _, -, done, -⟩
      · exact absurd impossible not_ends_lift_error
      · obtain ⟨-, impossible, -⟩ := ends_pure.mp done
        cases impossible

/-- What fails to be resolved registers at most. -/
theorem resolve_error {request : SubmissionRequest} {e : OperationError}
    (h : (resolve request).Ends s tr (.error e) s') : s.Registered s' :=
  (resolve_ends_error h).registered (asks_survey request).calls

/-- What has been resolved **rests on** its premises, and its head has a name. -/
theorem resolve_grounds {request : SubmissionRequest} {r : Resolved}
    (h : (resolve request).Ends s tr (.ok r) s') (whole : s.Integrity) :
    r.premises.RestOn request s tr s' ∧ NamesHead r s tr := by
  obtain ⟨main, headSha, canceled, s₁, tr₁, tr₂, tr₃, surveyed, canceling, rfl⟩ :=
    resolve_ends_ok h
  obtain ⟨grounds, named, -⟩ := survey_ends_ok surveyed
  have kept := (canceling.grows (surveyed.integrity whole)).repositories.subset
  have more : tr₁ ⊆ tr₁ ++ (tr₂ ++ tr₃) := List.subset_append_left _ _
  exact ⟨grounds.mono more kept, named.mono more⟩

end Resolution

end Dispatch
