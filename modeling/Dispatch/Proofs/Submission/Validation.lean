import Dispatch.Proofs.Naming
import Dispatch.Submission.Request
import Mathlib.Control.Monad.Basic

/-!
# Valid requests

Validating a request says whether it is acceptable, and brings its head and its base into a normal
form: hashes stay, branches get their full names, and a base that is left blank stays blank. What is
in normal form already stays as it is.

## Main definitions

* `SubmissionRequest.Acceptable`: what a valid request is like.

## Main results

* `SubmissionRequest.validated_eq_ok`: what validating checks, and what it changes.
* `SubmissionRequest.exists_validated_iff`: which requests are valid.
* `SubmissionRequest.validated_normalizes`: validating is an exact and idempotent normalization.
-/

namespace Dispatch

/-! ### Blank revisions -/

namespace Git

open Text

variable {revision : String}

/-- What is blank is **no hash**. -/
theorem isHash_of_allBlank (blank : allBlank revision = true) : isHash revision = false := by
  rw [isHash, trim_of_allBlank blank]
  rfl

/-- What is blank is **no branch**. -/
theorem qualifyBranch_of_allBlank (blank : allBlank revision = true) (name : String) :
    qualifyBranch revision ≠ .ok name := by
  have noSegments : branchSegments (stripRefsHeads []) = [] := by decide
  rw [qualifyBranch, if_neg (by simp [isHash_of_allBlank blank])]
  split
  · simp
  · simp [trim_of_allBlank blank, noSegments]

end Git

namespace SubmissionRequest

variable {r r' : SubmissionRequest} {revision name base base' : String}

/-! ### Head and base -/

theorem qualified_eq_ok : qualified revision = .ok name ↔
    Git.isHash revision = true ∧ name = revision ∨ Git.qualifyBranch revision = .ok name := by
  rw [qualified]
  split
  · next hash =>
    have branch : Git.qualifyBranch revision ≠ .ok name := by
      rw [Git.qualifyBranch, if_pos hash]
      intro h
      cases h
    simp [hash, branch, eq_comm]
  · next other => simp [other]

/-- Under its full name a revision **stays as it is**. -/
theorem qualified_qualified (h : qualified revision = .ok name) : qualified name = .ok name := by
  rcases qualified_eq_ok.mp h with ⟨hash, rfl⟩ | branch
  · exact h
  · have full := Git.qualifyBranch_isFullName branch
    rw [qualified, if_neg (by simp [full.not_isHash]), full.qualifyBranch_eq]

theorem not_allBlank_of_qualified (h : qualified revision = .ok name) :
    Text.allBlank revision = false := by
  refine Bool.eq_false_iff.mpr fun blank => ?_
  rcases qualified_eq_ok.mp h with ⟨hash, -⟩ | branch
  · rw [Git.isHash_of_allBlank blank] at hash
    cases hash
  · exact Git.qualifyBranch_of_allBlank blank name branch

theorem qualifiedBase_eq_ok : qualifiedBase base = .ok base' ↔
    Text.allBlank base = true ∧ base' = base ∨ qualified base = .ok base' := by
  rw [qualifiedBase]
  split
  · next blank =>
    have other : qualified base ≠ .ok base' := fun h => by
      rw [not_allBlank_of_qualified h] at blank
      cases blank
    simp [blank, other, eq_comm]
  · next other => simp [other]

/-! ### Validating -/

/-- What is **checked** besides the head and the base themselves. -/
structure PassesChecks (r : SubmissionRequest) : Prop where
  parent : r.manual = true ∨ Repository.isName r.parent = true
  all : r.all = true → r.manual = true
  fork : Repository.isName r.fork = true
  head : Text.allBlank r.head = false
  base : Text.allBlank r.base = true → r.manual = true

/-- **What validating checks**, and what it changes. -/
theorem validated_eq_ok : r.validated = .ok r' ↔ r.PassesChecks ∧
    qualified r.head = .ok r'.head ∧ qualifiedBase r.base = .ok r'.base ∧
      r' = { r with head := r'.head, base := r'.base } := by
  rw [validated]
  constructor
  · intro h
    obtain ⟨parent, h⟩ := Except.check_eq_ok.mp h
    obtain ⟨all, h⟩ := Except.check_eq_ok.mp h
    obtain ⟨fork, h⟩ := Except.check_eq_ok.mp h
    obtain ⟨head, h⟩ := Except.check_eq_ok.mp h
    obtain ⟨head', qualifiesHead, h⟩ := Except.bind_eq_ok.mp h
    obtain ⟨base, h⟩ := Except.check_eq_ok.mp h
    obtain ⟨base', qualifiesBase, h⟩ := Except.bind_eq_ok.mp h
    obtain rfl := Except.ok.inj h
    exact ⟨⟨by grind, by grind, by grind, by grind, by grind⟩, qualifiesHead, qualifiesBase, rfl⟩
  · rintro ⟨passes, qualifiesHead, qualifiesBase, same⟩
    refine Except.check_eq_ok.mpr ⟨?_, ?_⟩
    · have := passes.parent
      grind
    refine Except.check_eq_ok.mpr ⟨?_, ?_⟩
    · have := passes.all
      grind
    refine Except.check_eq_ok.mpr ⟨by simp [passes.fork], ?_⟩
    refine Except.check_eq_ok.mpr ⟨by simp [passes.head], ?_⟩
    refine Except.bind_eq_ok.mpr ⟨_, qualifiesHead, Except.check_eq_ok.mpr ⟨?_, ?_⟩⟩
    · have := passes.base
      grind
    · exact Except.bind_eq_ok.mpr ⟨_, qualifiesBase, congrArg Except.ok same.symm⟩

/-- Of a revision that **can be qualified** there is a hash or a branch. -/
theorem exists_qualified_iff : (∃ name, qualified revision = .ok name) ↔
    Git.isHash revision = true ∨ ∃ name, Git.qualifyBranch revision = .ok name := by
  simp only [qualified_eq_ok, exists_or, exists_and_left, exists_eq, and_true]

/-! ### Which requests are valid -/

/-- An **acceptable** request says which repositories it is about and which revisions to compare. It
leaves open, or demands, only what a request made by hand may. -/
structure Acceptable (r : SubmissionRequest) : Prop where
  parent : (∃ owner repo, Repository.IsNamed r.parent owner repo) ∨ r.manual = true
  all : r.all = true → r.manual = true
  fork : ∃ owner repo, Repository.IsNamed r.fork owner repo
  head : Git.isHash r.head = true ∨ ∃ name, Git.qualifyBranch r.head = .ok name
  base : Git.isHash r.base = true ∨ (∃ name, Git.qualifyBranch r.base = .ok name) ∨
    Text.allBlank r.base = true ∧ r.manual = true

/-- **Exactly acceptable requests** are valid. -/
theorem exists_validated_iff : (∃ r', r.validated = .ok r') ↔ r.Acceptable := by
  constructor
  · rintro ⟨r', h⟩
    obtain ⟨passes, head, base, -⟩ := validated_eq_ok.mp h
    refine ⟨passes.parent.symm.imp_left Repository.isName_iff.mp, passes.all,
      Repository.isName_iff.mp passes.fork, exists_qualified_iff.mp ⟨_, head⟩, ?_⟩
    rcases qualifiedBase_eq_ok.mp base with ⟨blank, -⟩ | base
    · exact .inr (.inr ⟨blank, passes.base blank⟩)
    · exact (exists_qualified_iff.mp ⟨_, base⟩).imp_right .inl
  · intro h
    obtain ⟨head, qualifiesHead⟩ := exists_qualified_iff.mpr h.head
    obtain ⟨base, qualifiesBase, blank⟩ : ∃ base, qualifiedBase r.base = .ok base ∧
        (Text.allBlank r.base = true → r.manual = true) := by
      rcases or_assoc.mpr h.base with given | ⟨blank, manual⟩
      · obtain ⟨base, given⟩ := exists_qualified_iff.mpr given
        exact ⟨base, qualifiedBase_eq_ok.mpr (.inr given), fun blank => by
          rw [not_allBlank_of_qualified given] at blank
          cases blank⟩
      · exact ⟨r.base, qualifiedBase_eq_ok.mpr (.inl ⟨blank, rfl⟩), fun _ => manual⟩
    refine ⟨{ r with head, base }, validated_eq_ok.mpr ⟨?_, qualifiesHead, qualifiesBase, rfl⟩⟩
    exact
      { parent := h.parent.symm.imp_right Repository.isName_iff.mpr
        all := h.all
        fork := Repository.isName_iff.mpr h.fork
        head := not_allBlank_of_qualified qualifiesHead
        base := blank }

/-- Validating a valid request **once more** changes nothing. -/
theorem validated_validated (h : r.validated = .ok r') : r'.validated = .ok r' := by
  obtain ⟨passes, head, base, same⟩ := validated_eq_ok.mp h
  have head' := qualified_qualified head
  have base' : qualifiedBase r'.base = .ok r'.base ∧
      (Text.allBlank r'.base = true → Text.allBlank r.base = true) := by
    rcases qualifiedBase_eq_ok.mp base with ⟨blank, kept⟩ | given
    · exact ⟨qualifiedBase_eq_ok.mpr (.inl ⟨kept ▸ blank, rfl⟩), fun _ => blank⟩
    · have given' := qualified_qualified given
      refine ⟨qualifiedBase_eq_ok.mpr (.inr given'), fun blank => ?_⟩
      rw [not_allBlank_of_qualified given'] at blank
      cases blank
  refine validated_eq_ok.mpr ⟨?_, head', base'.1, rfl⟩
  exact
    { parent := by rw [same]; exact passes.parent
      all := by rw [same]; exact passes.all
      fork := by rw [same]; exact passes.fork
      head := not_allBlank_of_qualified head'
      base := fun blank => by rw [same]; exact passes.base (base'.2 blank) }

/-- What a revision is **turned into**: a hash stays, and a branch gets its full name. -/
theorem qualified_cases (h : qualified revision = .ok name) :
    Git.isHash revision = true ∧ name = revision ∨
      Git.qualifyBranch revision = .ok name ∧ Git.IsFullName name :=
  (qualified_eq_ok.mp h).imp_right fun branch => ⟨branch, Git.qualifyBranch_isFullName branch⟩

end SubmissionRequest

namespace Sample

/-- A request made by hand, to run everything in a branch that is written with more than its
name. -/
def byHand : SubmissionRequest where
  parent := ""
  fork := "ada/tool"
  head := " refs/heads/ new /./parser/"
  base := " "
  pullRequest := none
  submittedBy := none
  all := true
  manual := true

/-- The same request with the branch under its full name. -/
def byHandQualified : SubmissionRequest := { byHand with head := "heads/new/parser" }

end Sample

namespace SubmissionRequest

/-- **Validating is an exact and idempotent normalization**: the acceptable requests are valid, at
most their heads and bases change, these stay or become full names of branches, and after that
nothing changes any more. -/
theorem validated_normalizes (r : SubmissionRequest) :
    ((∃ r', r.validated = .ok r') ↔ r.Acceptable) ∧
    ∀ r', r.validated = .ok r' →
      r' = { r with head := r'.head, base := r'.base } ∧
      (Git.isHash r.head = true ∧ r'.head = r.head ∨
        Git.qualifyBranch r.head = .ok r'.head ∧ Git.IsFullName r'.head) ∧
      ((Git.isHash r.base = true ∨ Text.allBlank r.base = true) ∧ r'.base = r.base ∨
        Git.qualifyBranch r.base = .ok r'.base ∧ Git.IsFullName r'.base) ∧
      r'.validated = .ok r' := by
  refine ⟨exists_validated_iff, fun r' h => ?_⟩
  obtain ⟨-, head, base, same⟩ := validated_eq_ok.mp h
  refine ⟨same, qualified_cases head, ?_, validated_validated h⟩
  rcases qualifiedBase_eq_ok.mp base with ⟨blank, kept⟩ | given
  · exact .inl ⟨.inr blank, kept⟩
  · exact (qualified_cases given).imp_left fun h => ⟨.inl h.1, h.2⟩

theorem validated_normalizes_sample :
    Sample.byHand.validated = .ok Sample.byHandQualified ∧ Git.IsFullName "heads/new/parser" ∧
      Sample.byHandQualified.validated = .ok Sample.byHandQualified := by
  have valid : Sample.byHand.validated = .ok Sample.byHandQualified := by decide +kernel
  obtain ⟨-, ⟨-, kept⟩ | ⟨-, full⟩, -, again⟩ :=
    (validated_normalizes Sample.byHand).2 Sample.byHandQualified valid
  · exact absurd kept (by decide)
  · exact ⟨valid, full, again⟩

end SubmissionRequest

end Dispatch
