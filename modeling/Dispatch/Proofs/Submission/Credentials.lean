import Dispatch.Proofs.History
import Dispatch.Proofs.Submission.Footing

/-!
# Under whose credential a submission acts

A request made by hand has to pass a gate: its submitter is looked up, and the code host is asked
about the fork under the submitter's own credential. Until the answer is there nothing else is
asked and nothing is changed, and if there is none the request is turned down. Everything else is
asked under the credential of the owner of the enabled repository that the request is made against,
and so is everything for a request that a hook makes.

## Main definitions

* `Resolution.Gate`: a program that begins at the gate.
* `Resolution.Admission`: how far a program has come that begins at the gate.
* `Resolution.IsParentOf`: which repository a request made by hand is made against.
* `Resolution.ActsFor`: what is asked, is asked under the credential of a repository's owner.

## Main results

* `Resolution.Gate.admission`: what can have happened at the gate.
* `Intake.submit_credentials`: under whose credential a submission acts.
-/

namespace Dispatch

namespace Resolution

open Operation

/-! ### The gate -/

section Gate

variable {α β : Type} {request : SubmissionRequest}

/-- A program that **begins at the gate** of a request made by hand. If the submitter is not known
or cannot see the fork, it ends with an error at once, and if all is well, it goes on somehow. -/
inductive Gate (request : SubmissionRequest)
    (GoesOn : HostRepository → Program (Except OperationError α) → Prop) :
    Program (Except OperationError α) → Prop
  | refused (e : OperationError) : Gate request GoesOn (.done (.error e))
  | asks (username : String)
      (lookedUp : Except StoreError User → Program (Except OperationError α))
      (submitted : request.submittedBy = some username)
      (unknown : ∀ e, ∃ e', lookedUp (.error e) = .done (.error e'))
      (known : ∀ user : User, ∃ answered,
        lookedUp (.ok user) = .host user.token (.getRepository request.fork) answered ∧
        (∀ e, ∃ e', answered (.error e) = .done (.error e')) ∧
        ∀ hosted, GoesOn hosted (answered (.ok hosted))) :
      Gate request GoesOn (.store (.getUserNamed username) lookedUp)

/-- What **follows** a program that begins at the gate begins there as well, as errors skip it. -/
theorem Gate.bind {GoesOn : HostRepository → Program (Except OperationError α) → Prop}
    {GoesOn' : HostRepository → Program (Except OperationError β) → Prop}
    {p : Program (Except OperationError α)}
    {f : Except OperationError α → Program (Except OperationError β)}
    (h : Gate request GoesOn p) (skips : ∀ e, ∃ e', f (.error e) = .done (.error e'))
    (after : ∀ hosted q, GoesOn hosted q → GoesOn' hosted (q.bind f)) :
    Gate request GoesOn' (p.bind f) := by
  cases h with
  | refused e =>
      obtain ⟨e', skipped⟩ := skips e
      rw [Program.bind, skipped]
      exact .refused e'
  | asks username lookedUp submitted unknown known =>
      refine .asks username _ submitted (fun e => ?_) fun user => ?_
      · obtain ⟨e', refused⟩ := unknown e
        rw [refused]
        exact skips e'
      · obtain ⟨answered, asks, denied, goesOn⟩ := known user
        refine ⟨fun reply => (answered reply).bind f, ?_, fun e => ?_, fun hosted => ?_⟩
        · rw [asks, Program.bind]
        · obtain ⟨e', denied⟩ := denied e
          dsimp only
          rw [denied]
          exact skips e'
        · exact after hosted _ (goesOn hosted)

/-- **How far** a program has come that begins at the gate, and what has happened by then. Only once
the submitter has been admitted, other things can happen. -/
inductive Admission (request : SubmissionRequest) (s : Store)
    (After : HostRepository → Trace → Prop) :
    Trace → Program (Except OperationError α) → Store → Prop
  | refused (e : OperationError) : Admission request s After [] (.done (.error e)) s
  | begun (username : String)
      (lookedUp : Except StoreError User → Program (Except OperationError α))
      (submitted : request.submittedBy = some username) :
      Admission request s After [] (.store (.getUserNamed username) lookedUp) s
  | unknown (username : String) (cause : StoreError) (e : OperationError) (answer : Event)
      (submitted : request.submittedBy = some username)
      (failed : answer = .store (.getUserNamed username) (.error cause) ∨
        answer = .fault (.getUserNamed username) cause) :
      Admission request s After [answer] (.done (.error e)) s
  | known (username : String) (user : User)
      (answered : Except HostError HostRepository → Program (Except OperationError α))
      (submitted : request.submittedBy = some username)
      (found : s.userNamed username = .ok user) :
      Admission request s After [.store (.getUserNamed username) (.ok user)]
        (.host user.token (.getRepository request.fork) answered) s
  | denied (username : String) (user : User) (cause : HostError) (e : OperationError)
      (submitted : request.submittedBy = some username)
      (found : s.userNamed username = .ok user) :
      Admission request s After
        [.store (.getUserNamed username) (.ok user),
          .host user.token (.getRepository request.fork) (.error cause)] (.done (.error e)) s
  | admitted (username : String) (user : User) (hosted : HostRepository) (tr : Trace)
      (rest : Program (Except OperationError α)) (s' : Store)
      (submitted : request.submittedBy = some username)
      (found : s.userNamed username = .ok user) (after : After hosted tr) :
      Admission request s After
        (.store (.getUserNamed username) (.ok user) ::
          .host user.token (.getRepository request.fork) (.ok hosted) :: tr) rest s'

/-- What can have happened **at the gate**. -/
theorem Gate.admission {GoesOn : HostRepository → Program (Except OperationError α) → Prop}
    {After : HostRepository → Trace → Prop} {p rest : Program (Except OperationError α)}
    {s s' : Store} {tr : Trace} (h : Gate request GoesOn p) (reached : p.Reaches s tr rest s')
    (after : ∀ hosted q tr rest s', GoesOn hosted q → q.Reaches s tr rest s' → After hosted tr) :
    Admission request s After tr rest s' := by
  cases h with
  | refused e =>
      cases reached with
      | here => exact .refused e
  | asks username lookedUp submitted unknown known =>
      cases reached with
      | here => exact .begun username lookedUp submitted
      | fault cause later =>
          obtain ⟨e, refused⟩ := unknown cause
          rw [refused] at later
          cases later with
          | here => exact .unknown username cause e _ submitted (.inr rfl)
      | store now later =>
          change Program.Reaches (lookedUp (s.userNamed username)) s _ _ _ at later
          change Admission request s After
            (.store (.getUserNamed username) (s.userNamed username) :: _) _ _
          cases found : s.userNamed username with
          | error cause =>
              obtain ⟨e, refused⟩ := unknown cause
              rw [found, refused] at later
              cases later with
              | here => exact .unknown username cause e _ submitted (.inl rfl)
          | ok user =>
              obtain ⟨answered, asks, denied, goesOn⟩ := known user
              rw [found, asks] at later
              cases later with
              | here => exact .known username user answered submitted found
              | host reply last =>
                  cases reply with
                  | error cause =>
                      obtain ⟨e, denied⟩ := denied cause
                      rw [denied] at last
                      cases last with
                      | here => exact .denied username user cause e submitted found
                  | ok hosted =>
                      exact .admitted username user hosted _ _ _ submitted found
                        (after hosted _ _ _ _ (goesOn hosted) last)

/-! ### Opening a request -/

/-- The **parent** of a request made by hand, by what is answered first: the fork itself where the
store has it and it is enabled, and otherwise the repository that the fork was made from, if there
is one. -/
inductive IsParentOf (s : Store) (request : SubmissionRequest) (hosted : HostRepository) :
    Trace → String → Prop
  | fork (known : Repository) (later : Trace)
      (found : s.repositoryNamed request.fork = .ok known) (enabled : known.disabled = false) :
      IsParentOf s request hosted
        (.store (.getRepositoryNamed request.fork) (.ok known) :: later) request.fork
  | upstream (known : Repository) (later : Trace)
      (found : s.repositoryNamed request.fork = .ok known) (disabled : known.disabled = true) :
      IsParentOf s request hosted
        (.store (.getRepositoryNamed request.fork) (.ok known) :: later)
        (hosted.parent.getD request.fork)
  | unknown (cause : StoreError) (answer : Event) (later : Trace)
      (missing : cause.isNotFound = true)
      (failed : s.repositoryNamed request.fork = .error cause ∧
          answer = .store (.getRepositoryNamed request.fork) (.error cause) ∨
        answer = .fault (.getRepositoryNamed request.fork) cause) :
      IsParentOf s request hosted (answer :: later) (hosted.parent.getD request.fork)

/-- What is answered **later** does not change the parent. -/
theorem IsParentOf.append {s : Store} {hosted : HostRepository} {tr : Trace} {name : String}
    (h : IsParentOf s request hosted tr name) (later : Trace) :
    IsParentOf s request hosted (tr ++ later) name := by
  cases h with
  | fork known rest found enabled => exact .fork known _ found enabled
  | upstream known rest found disabled => exact .upstream known _ found disabled
  | unknown cause answer rest missing failed => exact .unknown cause answer _ missing failed

/-- Programs that **look things up** in the store at most, with a result of a kind that depends on
the store and on what it has answered. -/
def Looks {γ : Type} (R : Store → Trace → γ → Prop) (q : Program (Except OperationError γ)) :
    Prop :=
  Operation.Makes StoreCall.IsLookup (fun _ _ => False) NoNotice (ExceptT.mk q) ∧
    ∀ s tr a s', Operation.Ends (ExceptT.mk q) s tr (.ok a) s' → R s tr a

/-- Past the gate, a manual request finds its parent **in the store**. -/
theorem gate_manualParent {valid : SubmissionRequest} (fork : valid.fork = request.fork)
    (submittedBy : valid.submittedBy = request.submittedBy) :
    Gate request
      (fun hosted => Looks fun s tr known => IsParentOf s request hosted tr known.2)
      (manualParent valid).run := by
  rw [manualParent, fork]
  cases submitted : valid.submittedBy with
  | none => exact .refused _
  | some username =>
      refine .asks username _ (submittedBy.symm.trans submitted) (fun e => ⟨_, rfl⟩) fun user =>
        ⟨_, rfl, fun e => ⟨_, rfl⟩, fun hosted => ⟨?_, fun s tr a s' ends => ?_⟩⟩
      · refine makes_bind (makes_ifFound trivial) fun known => ?_
        cases known with
        | none => exact makes_pure _
        | some known => exact makes_pure _
      · obtain ⟨known, s₁, tr₁, tr₂, looked, last, rfl⟩ := ends_bind_ok.mp ends
        obtain ⟨rfl, ⟨now, known, found, rfl, rfl⟩ | ⟨cause, missing, rfl, failed⟩⟩ :=
          ifFound_cases looked trivial
        · obtain ⟨rfl, eq, -⟩ := ends_pure.mp last
          cases eq
          dsimp only
          split
          · next disabled => exact .upstream known [] found disabled
          · next enabled => exact .fork known [] found (Bool.eq_false_iff.mpr enabled)
        · obtain ⟨rfl, eq, -⟩ := ends_pure.mp last
          cases eq
          rcases failed with ⟨⟨now, found⟩, rfl⟩ | rfl
          · exact .unknown cause _ [] missing (.inl ⟨found, rfl⟩)
          · exact .unknown cause _ [] missing (.inr rfl)

/-- What only **reshapes** the value of such a program leaves it one. -/
theorem Looks.bind {R : Store → Trace → α → Prop} {R' : Store → Trace → β → Prop}
    {q : Program (Except OperationError α)}
    {f : Except OperationError α → Program (Except OperationError β)} (h : Looks R q)
    (skips : ∀ e, ∃ e', f (.error e) = .done (.error e'))
    (reshapes : ∀ a, ∃ b, (∀ s tr, R s tr a → R' s tr b) ∧ f (.ok a) = .done (.ok b)) :
    Looks R' (q.bind f) := by
  constructor
  · refine Program.Makes.bind h.1 fun r => ?_
    cases r with
    | error e =>
        obtain ⟨e', skipped⟩ := skips e
        rw [skipped]
        trivial
    | ok a =>
        obtain ⟨b, -, reshaped⟩ := reshapes a
        rw [reshaped]
        trivial
  · intro s tr b s' ends
    obtain ⟨r, s₁, tr₁, tr₂, first, last, rfl⟩ := Program.ends_bind.mp ends
    cases r with
    | error e =>
        obtain ⟨e', skipped⟩ := skips e
        rw [skipped] at last
        obtain ⟨-, impossible, -⟩ := Program.ends_done.mp last
        cases impossible
    | ok a =>
        obtain ⟨_, meets, reshaped⟩ := reshapes a
        rw [reshaped] at last
        obtain ⟨rfl, eq, rfl⟩ := Program.ends_done.mp last
        cases eq
        rw [List.append_nil]
        exact meets s tr₁ (h.2 s tr₁ a _ first)

theorem Gate.reshape {R : HostRepository → Store → Trace → α → Prop}
    {R' : HostRepository → Store → Trace → β → Prop}
    {p : Program (Except OperationError α)}
    {f : Except OperationError α → Program (Except OperationError β)}
    (h : Gate request (fun hosted => Looks (R hosted)) p)
    (skips : ∀ e, ∃ e', f (.error e) = .done (.error e'))
    (reshapes : ∀ hosted a, ∃ b, (∀ s tr, R hosted s tr a → R' hosted s tr b) ∧
      f (.ok a) = .done (.ok b)) :
    Gate request (fun hosted => Looks (R' hosted)) (p.bind f) :=
  h.bind skips fun hosted _ looks => looks.bind skips (reshapes hosted)

/-- **Opening** a request made by hand begins at the gate. -/
theorem gate_opening (manual : request.manual = true) :
    Gate request
      (fun hosted => Looks fun s tr known => IsParentOf s request hosted tr known.2.parent)
      (stage "processing submission" (opening request)).run := by
  rw [opening]
  cases validated : request.validated with
  | error e => exact .refused _
  | ok valid =>
      obtain ⟨same, -⟩ := validated_ok validated
      have fork : valid.fork = request.fork := by rw [same]
      have submittedBy : valid.submittedBy = request.submittedBy := by rw [same]
      have manual' : valid.manual = true := by rw [same, manual]
      have staged : Gate request
          (fun hosted => Looks fun s tr known => IsParentOf s request hosted tr known.2)
          (stage "resolving manual submission" (manualParent valid)).run :=
        (gate_manualParent fork submittedBy).reshape (fun _ => ⟨_, rfl⟩)
          fun _ known => ⟨known, fun _ _ => id, rfl⟩
      have submitting : Gate request
          (fun hosted => Looks fun s tr known => IsParentOf s request hosted tr known.2.parent)
          (submitter valid).run := by
        rw [submitter, if_pos manual']
        exact staged.reshape (fun _ => ⟨_, rfl⟩) fun _ _ => ⟨_, fun _ _ => id, rfl⟩
      exact submitting.reshape (fun _ => ⟨_, rfl⟩) fun _ known => ⟨known, fun _ _ => id, rfl⟩

end Gate

/-- What a hook submits is **opened** without asking the code host. -/
theorem makes_opening_hook {request : SubmissionRequest} (hook : request.manual = false) :
    Makes StoreCall.IsLookup (fun _ _ => False) NoNotice (opening request) ∧
      (opening request).Yields fun known => known.2.parent = request.parent := by
  rw [opening]
  cases validated : request.validated with
  | error e => exact ⟨makes_fail _, trivial⟩
  | ok valid =>
      obtain ⟨same, -⟩ := validated_ok validated
      have parent : valid.parent = request.parent := by rw [same]
      have hook' : ¬ valid.manual = true := by rw [same, hook]; decide
      change Makes StoreCall.IsLookup (fun _ _ => False) NoNotice (submitter valid) ∧
        (submitter valid).Yields fun known => known.2.parent = request.parent
      rw [submitter, if_neg hook']
      split
      · exact ⟨makes_bind (makes_stage (makes_ifFound trivial)) fun _ => makes_pure _,
          yields_bind fun _ => yields_pure parent⟩
      · exact ⟨makes_pure _, yields_pure parent⟩

/-! ### Acting for a repository -/

/-- All that is asked is asked **under the credential of the owner** of one repository, which is
enabled and has a name that is meant. -/
def ActsFor (s : Store) (meant : String → Prop) (asked : List (String × HostCall)) : Prop :=
  asked = [] ∨ ∃ parent ∈ s.repositories, meant parent.name ∧ parent.disabled = false ∧
    ∃ owner ∈ s.users, parent.owner = some owner.id ∧ ∀ x ∈ asked, x.1 = owner.token

theorem ActsFor.mono {s : Store} {meant meant' : String → Prop} {asked : List (String × HostCall)}
    (h : ActsFor s meant asked) (wider : ∀ name, meant name → meant' name) :
    ActsFor s meant' asked :=
  h.imp_right fun ⟨parent, known, named, rest⟩ => ⟨parent, known, wider _ named, rest⟩

end Resolution

namespace Intake

open Operation Resolution

/-- What remains of taking a submission in once the request has been **opened**. -/
def proceed (limit : Nat) (opened : Option User × SubmissionRequest) : Operation Submitted := do
  let (submitter, request) := opened
  let parent ← stage "processing submission"
    (stage "configuring repositories" (enabledParent request.parent))
  let token ← stage "processing submission" (stage "obtaining owner client" (ownerToken parent))
  let main ← stage "processing submission" (reportedMain ⟨request, submitter, parent, token⟩)
  submitFrom limit ⟨request, submitter, parent, token⟩ main

theorem submit_eq_proceed (limit : Nat) (request : SubmissionRequest) :
    submit limit request = stage "processing submission" (opening request) >>= proceed limit := by
  rw [submit_eq, footing]
  simp only [stage_bind, bind_assoc]
  rfl

variable {limit : Nat} {request : SubmissionRequest} {s s' : Store} {tr : Trace}
  {rest : Program (Except OperationError Submitted)}

/-- Once a request has been opened, everything is asked under the credential of **the owner of its
parent**. -/
theorem proceed_actsFor {opened : Option User × SubmissionRequest}
    (h : Program.Reaches (proceed limit opened).run s tr rest s') :
    ActsFor s (· = opened.2.parent) tr.asked := by
  obtain ⟨submitter, request⟩ := opened
  rcases reaches_bind_lookups (makes_stage (makes_stage (makes_enabledParent (fun _ => id) _))) h
    with nothing | ⟨parent, tr₁, tr₂, enabling, h, -, same⟩
  · exact .inl nothing
  · obtain ⟨⟨known, name⟩, enabled⟩ :=
      enabledParent_ok (ends_stage_ok.mp (ends_stage_ok.mp enabling))
    rcases reaches_bind_lookups (makes_stage (makes_stage (makes_ownerToken (fun _ => id) _))) h
      with nothing | ⟨token, tr₃, tr₄, owning, h, -, same'⟩
    · exact .inl (same.trans nothing)
    · obtain ⟨-, owner, knownOwner, owns, rfl⟩ :=
        ownerToken_ok (ends_stage_ok.mp (ends_stage_ok.mp owning))
      refine .inr ⟨parent, known, name, enabled, owner, knownOwner, owns, ?_⟩
      rw [same, same']
      refine fun x mem => ((Program.Reaches.asked h (P := fun _ => True)
        (Q := Under owner.token fun _ => True) (N := AnyNotice) ?_) x mem).1
      refine makes_bind (makes_stage (makes_reportedMain _ ⟨rfl, trivial⟩)) fun main => ?_
      exact (makes_submitFrom limit _ main).mono (fun _ => id) (fun _ _ own => ⟨own.1, trivial⟩)
        fun _ => id

/-- **Under whose credential a submission acts**, however far it has come and whatever fails. For a
request made by hand, the first thing that the code host is asked is about the fork and under the
submitter's credential. Until the submitter has been admitted, nothing else is asked and the store
is as it was, and if the submitter is not admitted, there is nothing but an error. Everything else,
and everything for a request that a hook makes, is asked under the credential of the owner of the
parent. -/
theorem submit_credentials
    (h : Program.Reaches (submit limit request).run s tr rest s') :
    (request.manual = true → Admission request s
      (fun hosted later => ActsFor s (IsParentOf s request hosted later) later.asked) tr rest s') ∧
    (request.manual = false → ActsFor s (· = request.parent) tr.asked) := by
  rw [submit_eq_proceed] at h
  constructor
  · intro manual
    have gate : Gate request
        (fun hosted q => ∀ later rest s', Program.Reaches q s later rest s' →
          ActsFor s (IsParentOf s request hosted later) later.asked)
        (stage "processing submission" (opening request) >>= proceed limit).run := by
      refine (gate_opening manual).bind (fun e => ⟨e, rfl⟩) fun hosted q looks later rest s' h => ?_
      have lookups : Makes _ _ _ (ExceptT.mk q) := looks.1
      rcases reaches_bind_lookups lookups h with
        nothing | ⟨opened, tr₁, tr₂, ended, proceeds, rfl, same⟩
      · exact .inl nothing
      · rw [same]
        refine (proceed_actsFor proceeds).mono fun name eq => ?_
        rw [eq]
        exact (looks.2 _ _ _ _ ended).append tr₂
    exact gate.admission h fun hosted q later rest s' goesOn => goesOn later rest s'
  · intro hook
    obtain ⟨quiet, named⟩ := makes_opening_hook hook
    rcases reaches_bind_lookups (makes_stage quiet) h with
      nothing | ⟨opened, tr₁, tr₂, ended, h, -, same⟩
    · exact .inl nothing
    · have parent : opened.2.parent = request.parent := ended.yields (yields_stage named)
      rw [same, ← parent]
      exact proceed_actsFor h

/-- A submitter who can see the fork is admitted, and the submission is taken in. -/
theorem submit_credentials_sample : ∃ (tr : Trace) (result : Submitted) (s' : Store),
    Program.Reaches (submit 5 { Sample.request Sample.first with manual := true }).run
      Sample.session.store tr (.done (.ok result)) s' ∧
    Admission { Sample.request Sample.first with manual := true } Sample.session.store
      (fun hosted later => ActsFor Sample.session.store
        (IsParentOf Sample.session.store { Sample.request Sample.first with manual := true } hosted
          later) later.asked)
      tr (.done (.ok result)) s' := by
  obtain ⟨result, σ, taken, -⟩ := Session.exists_of_succeeds
    (submit 5 { Sample.request Sample.first with manual := true }) Sample.session
    (fun _ _ => true) (by decide +kernel)
  obtain ⟨tr, ends, -⟩ := Session.perform_ends taken
  exact ⟨tr, result, σ.store, ends.reaches, (submit_credentials ends.reaches).1 rfl⟩

end Intake

end Dispatch
