import Dispatch.Proofs.History
import Dispatch.Proofs.Submission.Footing

/-!
# Blank bases

A request by hand may leave the base open, and then the main branch of the parent is the base. A
base of nothing but white space is as valid as an empty one, but it is not taken for one: it is
looked up as it is. So the base of a request matters in one place only, and there the two differ in
one call.

## Main definitions

* `SubmissionRequest.withBase`: the request with another base.
* `Resolution.bearings`: resolving up to the point where the base is to be looked up.
* `Intake.submitLooking`: taking in a submission whose base is looked up in a given way.
* `Intake.Differ`: two courses of a submission that differ in the look-up of the base.

## Main results

* `Intake.launch_withBase`: what has been resolved is started without a look at the base.
* `Intake.submit_noBase`, `Intake.submit_blank`: what is looked up without a base and for a blank
  one.
* `Intake.submit_blankBase`: a blank base makes a difference in one call only.
* `Intake.blankBase_mistaken`: that this call makes a difference to the result.
-/

namespace Dispatch

namespace SubmissionRequest

variable {r : SubmissionRequest} {base : String}

/-- The request with **another base**. -/
def withBase (r : SubmissionRequest) (base : String) : SubmissionRequest := { r with base }

/-- A request by hand is **as valid with a blank base** as it is without one. -/
theorem validated_withBase (manual : r.manual = true) (blank : Text.allBlank base = true) :
    (r.withBase base).validated = (r.withBase "").validated.map (·.withBase base) := by
  have qualifiesNone : qualifiedBase "" = .ok "" := by decide +kernel
  have qualifiesBase : qualifiedBase base = .ok base := by rw [qualifiedBase, if_pos blank]
  simp only [validated, withBase, manual, qualifiesBase, qualifiesNone]
  by_cases fork : Repository.isName r.fork = true
  · by_cases head : Text.allBlank r.head = true
    · simp [fork, head, Except.map, throw, throwThe, MonadExceptOf.throw, bind, Except.bind]
    · cases qualified r.head <;> simp [fork, head, Except.map, bind, Except.bind, pure, Except.pure]
  · simp [fork, Except.map, throw, throwThe, MonadExceptOf.throw, bind, Except.bind]

end SubmissionRequest

/-- What has been resolved, but for a request with another base. -/
def Resolved.withBase (r : Resolved) (base : String) : Resolved :=
  { r with request := r.request.withBase base }

/-! ### From the resolution on -/

namespace Picking

open Operation

variable (r : Resolved) (base : String)

theorem loadOne_withBase (dir : String) : loadOne (r.withBase base) dir = loadOne r dir := by
  rw [loadOne, loadOne]
  congr 1
  funext reply
  cases reply <;> rfl

theorem loadWaiting_withBase (limit : Nat) (waiting : List String) (seen : Directories)
    (loaded : Dictionary TaskSettings) :
    loadWaiting (r.withBase base) limit waiting seen loaded =
      loadWaiting r limit waiting seen loaded := by
  induction limit generalizing waiting seen loaded with
  | zero => cases waiting <;> rfl
  | succ limit ih =>
      cases waiting with
      | nil => rfl
      | cons dir waiting =>
          rw [loadWaiting, loadWaiting, loadOne_withBase]
          congr
          funext one
          cases one with
          | error e => rfl
          | ok settings => exact ih _ _ _

/-- Filling a submission does **not look at the base** of the request. -/
theorem fill_withBase (limit : Nat) (selected : Directories) (submission : Submission) :
    fill limit (r.withBase base) selected submission = fill limit r selected submission := by
  have loads : load limit (r.withBase base) selected = load limit r selected := by
    rw [load, load, loadWaiting_withBase]
  rw [fill, fill, loads]
  rfl

theorem pick_withBase (limit : Nat) : pick limit (r.withBase base) = pick limit r := by
  simp only [pick_eq, fill_withBase]
  rfl

end Picking

namespace Intake

open Operation

/-- Nothing of what is started **depends on the base** that the request named. -/
theorem launch_withBase (limit : Nat) (r : Resolved) (base : String) :
    launch limit (r.withBase base) = launch limit r := by
  rw [launch, launch, start_eq, start_eq, Picking.pick_withBase]
  rfl

end Intake

/-! ### Up to the base -/

namespace Resolution

open Operation

variable {r : SubmissionRequest} {base : String}

/-- The footing of a request with another base. -/
def Footing.withBase (f : Footing) (base : String) : Footing :=
  { f with request := f.request.withBase base }

/-- What is known when the base **is to be looked up**. -/
structure Bearings extends Footing where
  /-- The main branch of the parent. -/
  mainBranch : String
  fork : Repository
  forkMainBranch : String
  headSha : String

/-- The bearings of a request with another base. -/
def Bearings.withBase (b : Bearings) (base : String) : Bearings :=
  { b with request := b.request.withBase base }

/-- Resolving up to the point where the base **is to be looked up**. -/
def bearings (r : SubmissionRequest) : Operation Bearings := do
  let f ← footing r
  let mainBranch ← reportedMain f
  let (fork, forkMainBranch) ← forkOf f.request f.token f.parent mainBranch
  let headSha ← stage "resolving head" (sha f.token fork.name f.request.head)
  return { f with mainBranch, fork, forkMainBranch, headSha }

/-- Resolving from the commit on that the base **comes to**. -/
def completeFrom (b : Bearings) (baseSha : String) : Operation Resolved := do
  let baseSha ← comparedSha b.parent b.fork b.headSha baseSha
  let found ← conclude {
    request := b.request, submitter := b.submitter, parent := b.parent, fork := b.fork,
    token := b.token, mainBranch := b.mainBranch, forkMainBranch := b.forkMainBranch,
    headSha := b.headSha, baseSha }
  settle found

theorem resolve_bearings (r : SubmissionRequest) : resolve r = bearings r >>= fun b =>
    baseSha b.token b.parent b.mainBranch b.request.base >>= completeFrom b := by
  simp only [resolve_split, bearings, bind_assoc, pure_bind]
  refine bind_congr fun f => bind_congr fun mainBranch => ?_
  simp only [resolveFrom, premisesFrom, bind_assoc, pure_bind]
  rfl

theorem ofDomain_map {α β : Type} (f : α → β) (x : Except DomainError α) :
    ofDomain (x.map f) = f <$> ofDomain x := by
  cases x <;> rfl

theorem manualParent_withBase : manualParent (r.withBase base) = manualParent r := by
  have same : (r.withBase base).submittedBy = r.submittedBy := rfl
  rw [manualParent, manualParent, same]
  cases r.submittedBy with
  | none => rfl
  | some username =>
      refine bind_congr fun user => bind_congr fun hosted => bind_congr fun known => ?_
      cases known <;> rfl

/-- The submitter is found **without the base**. -/
theorem submitter_withBase (r : SubmissionRequest) : submitter (r.withBase base) =
    (fun known => (known.1, known.2.withBase base)) <$> submitter r := by
  have sameManual : (r.withBase base).manual = r.manual := rfl
  have sameName : (r.withBase base).submittedBy = r.submittedBy := rfl
  rw [submitter, submitter, sameManual, sameName]
  by_cases manual : r.manual = true
  · rw [if_pos manual, if_pos manual, manualParent_withBase, map_bind]
    rfl
  · rw [if_neg manual, if_neg manual]
    cases r.submittedBy with
    | none => rfl
    | some username =>
        dsimp only
        rw [map_bind]
        rfl

theorem footing_withBase (manual : r.manual = true) (blank : Text.allBlank base = true) :
    footing (r.withBase base) = (·.withBase base) <$> footing (r.withBase "") := by
  have opens : opening (r.withBase base) =
      (fun known => (known.1, known.2.withBase base)) <$> opening (r.withBase "") := by
    rw [opening, opening, SubmissionRequest.validated_withBase manual blank, ofDomain_map,
      stage_map, bind_map_left, map_bind]
    exact bind_congr submitter_withBase
  rw [footing, footing, opens]
  simp only [bind_map_left, map_bind, map_pure]
  rfl

theorem bearings_withBase (manual : r.manual = true) (blank : Text.allBlank base = true) :
    bearings (r.withBase base) = (·.withBase base) <$> bearings (r.withBase "") := by
  rw [bearings, bearings, footing_withBase manual blank]
  simp only [bind_map_left, map_bind, map_pure]
  rfl

theorem completeFrom_withBase (b : Bearings) (sha : String) :
    completeFrom (b.withBase base) sha = (·.withBase base) <$> completeFrom b sha := by
  simp only [completeFrom, conclude, settle, bind_assoc, pure_bind, map_bind, map_pure]
  rfl

/-- The base that is **looked up** for a blank one is that text, unless it is empty. -/
theorem baseSha_of_allBlank {token : String} {parent : Repository} {mainBranch : String}
    (blank : Text.allBlank base = true) (given : base ≠ "") :
    baseSha token parent mainBranch base =
      stage "resolving base" (host token (.getSha parent.name base)) := by
  rw [baseSha, if_neg (by simpa using given), sha, if_neg (by simp [Git.isHash_of_allBlank blank])]

/-- The main branch of the parent is the one that **the code host reports**, or else the one that
the parent was registered with. -/
def Bearings.Reported (b : Bearings) (tr : Trace) : Prop :=
  ∃ hosted, .host b.token (.getRepository b.parent.name) (.ok hosted) ∈ tr ∧
    b.mainBranch = Git.mainBranch (hosted.defaultBranch.or b.parent.defaultBranch)

theorem bearings_ok {s s' : Store} {tr : Trace} {b : Bearings}
    (h : (bearings r).Ends s tr (.ok b) s') : b.Reported tr := by
  obtain ⟨f, s₁, tr₁, _, -, rest₁, rfl⟩ := ends_bind_ok.mp h
  obtain ⟨main, s₂, tr₂, _, reported, rest₂, rfl⟩ := ends_bind_ok.mp rest₁
  obtain ⟨hosted, s₃, tr₃, _, asked, last, rfl⟩ := ends_bind_ok.mp reported
  obtain ⟨rfl, rfl⟩ := ends_host_ok.mp (ends_stage_ok.mp asked)
  obtain ⟨-, eq, rfl⟩ := ends_pure.mp last
  cases eq
  obtain ⟨fork, s₄, tr₄, _, -, rest₄, rfl⟩ := ends_bind_ok.mp rest₂
  obtain ⟨head, s₅, tr₅, _, -, rest₅, rfl⟩ := ends_bind_ok.mp rest₄
  obtain ⟨-, eq, -⟩ := ends_pure.mp rest₅
  cases eq
  exact ⟨hosted, by simp, rfl⟩

end Resolution

namespace Intake

open Operation Resolution

variable {request : SubmissionRequest} {base : String} {limit : Nat}

/-- Taking in a submission from the commit on that the base comes to. -/
def submitOnto (limit : Nat) (b : Bearings) (baseSha : String) : Operation Submitted := do
  let resolved ← stage "processing submission" (completeFrom b baseSha)
  launch limit resolved

theorem submitOnto_withBase (base : String) (b : Bearings) :
    submitOnto limit (b.withBase base) = submitOnto limit b := by
  funext sha
  rw [submitOnto, submitOnto, completeFrom_withBase, stage_map, bind_map_left]
  exact bind_congr fun r => launch_withBase limit r base

/-- How a base **is looked up**: as a revision of the parent, in a stage. -/
structure LookUp where
  stage : String
  revision : Bearings → String

namespace LookUp

/-- The look-up of the parent's **main branch**. -/
def mainBranch : LookUp := ⟨"resolving base from main branch", (·.mainBranch)⟩

/-- The look-up of a text **as it is**. -/
def verbatim (base : String) : LookUp := ⟨"resolving base", fun _ => base⟩

/-- What the code host **is asked**. -/
def call (l : LookUp) (b : Bearings) : HostCall := .getSha b.parent.name (l.revision b)

def operation (l : LookUp) (b : Bearings) : Operation String :=
  Operation.stage l.stage (host b.token (.getSha b.parent.name (l.revision b)))

/-- What it comes to if there is no such commit. -/
def refusal (l : LookUp) (e : HostError) : OperationError :=
  ⟨.host e, [l.stage, "processing submission"]⟩

end LookUp

/-- Taking in a submission whose base is looked up **in the given way**. -/
def submitLooking (limit : Nat) (request : SubmissionRequest) (l : LookUp) : Operation Submitted :=
  stage "processing submission" (bearings (request.withBase "")) >>= fun b =>
    stage "processing submission" (l.operation b) >>= submitOnto limit b

theorem submit_withBase (manual : request.manual = true) (blank : Text.allBlank base = true) :
    submit limit (request.withBase base) =
      stage "processing submission" (bearings (request.withBase "")) >>= fun b =>
        stage "processing submission" (baseSha b.token b.parent b.mainBranch base) >>=
          submitOnto limit b := by
  rw [submit_launch, resolve_bearings, stage_bind, bearings_withBase manual blank, stage_map,
    bind_assoc, bind_map_left]
  refine bind_congr fun b => ?_
  rw [stage_bind, bind_assoc, ← submitOnto_withBase base]
  rfl

/-- Without a base, **the main branch** is looked up. -/
theorem submit_noBase (manual : request.manual = true) :
    submit limit (request.withBase "") = submitLooking limit request .mainBranch :=
  submit_withBase manual (by decide +kernel)

/-- With a blank base, **the blank** is looked up. -/
theorem submit_blank (manual : request.manual = true) (blank : Text.allBlank base = true)
    (given : base ≠ "") :
    submit limit (request.withBase base) = submitLooking limit request (.verbatim base) := by
  rw [submit_withBase manual blank]
  refine bind_congr fun b => ?_
  rw [baseSha_of_allBlank blank given]
  rfl

/-! ### One call for another -/

/-- What the answer to the look-up of the base **leads to**. -/
def Follows (limit : Nat) (b : Bearings) (l : LookUp) (s : Store) (tr : Trace)
    (res : Except OperationError Submitted) (s' : Store) : Except HostError String → Prop
  | .ok sha => (submitOnto limit b sha).Ends s tr res s'
  | .error e => tr = [] ∧ s' = s ∧ res = .error (l.refusal e)

variable {s s' : Store} {tr : Trace} {res : Except OperationError Submitted} {l : LookUp}

theorem lookUp_ends {b : Bearings} :
    Ends (stage "processing submission" (l.operation b) >>= submitOnto limit b) s tr res s' ↔
      ∃ reply tr', tr = .host b.token (l.call b) reply :: tr' ∧
        Follows limit b l s tr' res s' reply := by
  rw [ends_bind, LookUp.operation]
  simp only [ends_stage_error, ends_stage_ok]
  constructor
  · rintro (⟨_, ⟨_, ⟨_, asked, rfl⟩, rfl⟩, rfl⟩ | ⟨sha, s₁, tr₁, tr', asked, rest, rfl⟩)
    · rcases ends_host.mp asked with ⟨_, -, impossible, -⟩ | ⟨e, rfl, eq, rfl⟩
      · cases impossible
      · cases eq
        exact ⟨.error e, [], rfl, rfl, rfl, rfl⟩
    · obtain ⟨rfl, rfl⟩ := ends_host_ok.mp asked
      exact ⟨.ok sha, tr', rfl, rest⟩
  · rintro ⟨reply, tr', rfl, follows⟩
    cases reply with
    | ok sha => exact .inr ⟨sha, s, _, tr', ends_host_ok.mpr ⟨rfl, rfl⟩, follows, rfl⟩
    | error e =>
        obtain ⟨rfl, rfl, rfl⟩ := follows
        exact .inl ⟨_, ⟨_, ⟨_, ends_host.mpr (.inr ⟨e, rfl, rfl, rfl⟩), rfl⟩, rfl⟩, rfl⟩

/-- A submission ends **before** its base is looked up, with an error, or after that. -/
theorem submitLooking_ends : (submitLooking limit request l).Ends s tr res s' ↔
      (∃ e, (stage "processing submission" (bearings (request.withBase ""))).Ends s tr (.error e)
        s' ∧ res = .error e) ∨
      ∃ b s₁ tr₁ reply tr₂, (bearings (request.withBase "")).Ends s tr₁ (.ok b) s₁ ∧
        tr = tr₁ ++ .host b.token (l.call b) reply :: tr₂ ∧
        Follows limit b l s₁ tr₂ res s' reply := by
  rw [submitLooking, ends_bind]
  refine or_congr_right ⟨?_, ?_⟩
  · rintro ⟨b, s₁, tr₁, _, known, rest, rfl⟩
    obtain ⟨reply, tr₂, rfl, follows⟩ := lookUp_ends.mp rest
    exact ⟨b, s₁, tr₁, reply, tr₂, ends_stage_ok.mp known, rfl, follows⟩
  · rintro ⟨b, s₁, tr₁, reply, tr₂, known, rfl, follows⟩
    exact ⟨b, s₁, tr₁, _, ends_stage_ok.mpr known, lookUp_ends.mpr ⟨reply, tr₂, rfl, follows⟩, rfl⟩

/-- Two courses of a submission **differ in the look-up** of the base at most. -/
inductive Differ (l l' : LookUp) : Trace → Except OperationError Submitted →
    Trace → Except OperationError Submitted → Prop
  /-- Both fail before. -/
  | before (tr : Trace) (e : OperationError) : Differ l l' tr (.error e) tr (.error e)
  /-- Both find the same commit, and all the rest is the same. -/
  | found (b : Bearings) (tr₁ tr₂ : Trace) (sha : String) (res : Except OperationError Submitted)
      (main : b.Reported tr₁) : Differ l l'
        (tr₁ ++ .host b.token (l.call b) (.ok sha) :: tr₂) res
        (tr₁ ++ .host b.token (l'.call b) (.ok sha) :: tr₂) res
  /-- Both find none, and say so. -/
  | refused (b : Bearings) (tr : Trace) (e : HostError) (main : b.Reported tr) : Differ l l'
      (tr ++ [.host b.token (l.call b) (.error e)]) (.error (l.refusal e))
      (tr ++ [.host b.token (l'.call b) (.error e)]) (.error (l'.refusal e))

theorem Differ.symm {l' : LookUp} {tr' : Trace} {res' : Except OperationError Submitted}
    (h : Differ l l' tr res tr' res') : Differ l' l tr' res' tr res := by
  cases h with
  | before tr e => exact .before tr e
  | found b tr₁ tr₂ sha res main => exact .found b tr₁ tr₂ sha res main
  | refused b tr e main => exact .refused b tr e main

/-- For each course there is one that **differs from it** in the look-up only. -/
theorem submitLooking_differ (h : (submitLooking limit request l).Ends s tr res s') (l' : LookUp) :
    ∃ tr' res', (submitLooking limit request l').Ends s tr' res' s' ∧
      Differ l l' tr res tr' res' := by
  rcases submitLooking_ends.mp h with
    ⟨e, failed, rfl⟩ | ⟨b, s₁, tr₁, reply, tr₂, known, rfl, follows⟩
  · exact ⟨tr, .error e, submitLooking_ends.mpr (.inl ⟨e, failed, rfl⟩), .before tr e⟩
  · have main := bearings_ok known
    cases reply with
    | ok sha =>
        exact ⟨_, res, submitLooking_ends.mpr
          (.inr ⟨b, s₁, tr₁, .ok sha, tr₂, known, rfl, follows⟩), .found b tr₁ tr₂ sha res main⟩
    | error e =>
        obtain ⟨rfl, rfl, rfl⟩ := follows
        exact ⟨_, _, submitLooking_ends.mpr
          (.inr ⟨b, s', tr₁, .error e, [], known, rfl, rfl, rfl, rfl⟩), .refused b tr₁ e main⟩

/-- **A blank base is looked up.** A request by hand whose base is blank but not empty goes as it
would without a base, except for one call: where the main branch of the parent would be looked up,
the blank is. -/
theorem submit_blankBase (manual : request.manual = true)
    (blank : Text.allBlank request.base = true) (given : request.base ≠ "") (s s' : Store) :
    (∀ tr res, (submit limit request).Ends s tr res s' →
      ∃ tr' res', (submit limit (request.withBase "")).Ends s tr' res' s' ∧
        Differ (.verbatim request.base) .mainBranch tr res tr' res') ∧
    ∀ tr' res', (submit limit (request.withBase "")).Ends s tr' res' s' →
      ∃ tr res, (submit limit request).Ends s tr res s' ∧
        Differ (.verbatim request.base) .mainBranch tr res tr' res' := by
  have verbatim : submit limit request = submitLooking limit request (.verbatim request.base) :=
    submit_blank manual blank given
  rw [verbatim, submit_noBase manual]
  refine ⟨fun tr res h => submitLooking_differ h _, fun tr' res' h => ?_⟩
  obtain ⟨tr, res, ends, differ⟩ := submitLooking_differ h (.verbatim request.base)
  exact ⟨tr, res, ends, differ.symm⟩

end Intake

namespace Sample

/-- A session in which the code host knows the main branch by its name. -/
def mainKnown : Session :=
  { session with host := { host with shas := [("*", "heads/main", base)] } }

/-- The demand, by hand, to test a commit against a base that is left blank. -/
def blankly : SubmissionRequest := { request first with base := " ", manual := true }

end Sample

namespace Intake

theorem submit_blankBase_sample : ∃ (s' : Store) (tr tr' : Trace)
    (res res' : Except OperationError Submitted),
    Sample.blankly.manual = true ∧ Text.allBlank Sample.blankly.base = true ∧
      Sample.blankly.base ≠ "" ∧
      (submit 5 (Sample.blankly.withBase "")).Ends Sample.mainKnown.store tr' res' s' ∧
      (submit 5 Sample.blankly).Ends Sample.mainKnown.store tr res s' ∧
      Differ (.verbatim " ") .mainBranch tr res tr' res' := by
  have manual : Sample.blankly.manual = true := rfl
  have blank : Text.allBlank Sample.blankly.base = true := by decide +kernel
  have given : Sample.blankly.base ≠ "" := by decide +kernel
  obtain ⟨result, σ, submitted, -⟩ := Session.exists_of_succeeds
    (submit 5 (Sample.blankly.withBase "")) Sample.mainKnown (fun _ _ => true) (by decide +kernel)
  obtain ⟨tr', ends', -⟩ := Session.perform_ends submitted
  obtain ⟨tr, res, ends, differ⟩ := (submit_blankBase manual blank given _ _).2 _ _ ends'
  exact ⟨σ.store, tr, tr', res, _, manual, blank, given, ends', ends, differ⟩

/-- Without a base, the commit is tested against **the main branch**. With a blank base, which is as
valid, the code host is asked for a revision that it **does not know**. -/
theorem blankBase_mistaken : Sample.blankly.validated.isOk = true ∧
    (∃ result σ, Session.perform (submit 5 (Sample.blankly.withBase "")) Sample.mainKnown =
      some (.ok result, σ) ∧ σ.store.submissions.length = 1) ∧
    ∃ e σ, Session.perform (submit 5 Sample.blankly) Sample.mainKnown = some (.error e, σ) ∧
      e.stages = ["resolving base", "processing submission"] ∧ σ.store.submissions = [] := by
  obtain ⟨result, σ, submitted, one⟩ := Session.exists_of_succeeds
    (submit 5 (Sample.blankly.withBase "")) Sample.mainKnown
    (fun _ σ => σ.store.submissions.length = 1) (by decide +kernel)
  obtain ⟨e, σ', failed, facts⟩ := Session.exists_of_fails (submit 5 Sample.blankly)
    Sample.mainKnown (fun e σ => e.stages = ["resolving base", "processing submission"] &&
      σ.store.submissions.isEmpty) (by decide +kernel)
  obtain ⟨stages, noSubmission⟩ := Bool.and_eq_true_iff.mp facts
  exact ⟨by decide +kernel, ⟨result, σ, submitted, of_decide_eq_true one⟩, e, σ', failed,
    of_decide_eq_true stages, List.isEmpty_iff.mp noSubmission⟩

end Intake

end Dispatch
