import Dispatch.Proofs.Naming
import Mathlib.Data.List.Basic

/-!
# Branches under their refs

The code host knows a branch by its ref, `refs/heads/` and the branch. What is left of the ref
after that beginning is read like any other name, and a name that begins with `heads/` is taken for
a full name. So a branch that lies in a directory of that name goes by the name of another one.

## Main definitions

* `Git.IsBranch`: a branch as the code host has it.
* `Git.branchRef`: its ref.
* `Git.IsUnderHeads`: the branch lies in a directory `heads`, or is called that.

## Main results

* `Git.IsBranch.qualifyBranch_branchRef`: what every ref comes to.
* `Git.branchRef_kept`: which refs keep their branch, and which two come to one name.
* `Git.branchRef_mistaken`: that not all of them do.
-/

namespace Dispatch

namespace Git

open Text

variable {branch other name : String}

/-- A **branch** as the code host has it: all of its segments are segments of a branch name. -/
def IsBranch (branch : String) : Prop := ∀ part ∈ segments branch.toList, IsBranchSegment part

/-- The **ref** of a branch. -/
def branchRef (branch : String) : String := "refs/heads/" ++ branch

/-- A branch lies **under** `heads`: that is its first segment, or all of it. -/
def IsUnderHeads (branch : String) : Prop := (segments branch.toList).head? = some heads

instance (part : List Char) : Decidable (IsBranchSegment part) :=
  decidable_of_iff (part ≠ [] ∧ part ≠ ['.'] ∧ part ≠ ['.', '.'] ∧ Tight part ∧ '/' ∉ part)
    ⟨fun h => ⟨h.1, h.2.1, h.2.2.1, h.2.2.2.1, h.2.2.2.2⟩,
      fun h => ⟨h.nonempty, h.notHere, h.notAbove, h.tight, h.noSlash⟩⟩

instance (branch : String) : Decidable (IsBranch branch) :=
  inferInstanceAs (Decidable (∀ part ∈ segments branch.toList, IsBranchSegment part))

instance (branch : String) : Decidable (IsUnderHeads branch) :=
  inferInstanceAs (Decidable (_ = _))

/-! ### Branches under heads -/

theorem segments_headsName (branch : String) :
    segments ("heads/" ++ branch).toList = heads :: segments branch.toList := by
  have joined : ("heads/" ++ branch).toList = heads ++ '/' :: branch.toList := by
    simp [heads]
  have single : segments heads = [heads] := segments_eq_singleton isBranchSegment_heads.noSlash
  rw [joined, segments, List.splitOn_append_cons_self, ← segments, ← segments, single]
  rfl

theorem isUnderHeads_headsName (branch : String) : IsUnderHeads ("heads/" ++ branch) := by
  rw [IsUnderHeads, segments_headsName]
  rfl

theorem isUnderHeads_heads : IsUnderHeads "heads" := by decide

theorem segments_eq_heads_iff : segments branch.toList = [heads] ↔ branch = "heads" := by
  constructor
  · intro same
    have single : segments "heads".toList = [heads] := by decide
    exact String.toList_inj.mp (segments_injective (same.trans single.symm))
  · rintro rfl
    decide

/-! ### Reading a ref -/

theorem toList_branchRef (branch : String) :
    (branchRef branch).toList = "refs/heads/".toList ++ branch.toList :=
  String.toList_append

theorem stripRefsHeads_branchRef (branch : String) :
    stripRefsHeads (branchRef branch).toList = branch.toList := by
  have begins : "refs/heads/".toList.isPrefixOf (branchRef branch).toList = true := by
    rw [toList_branchRef, List.isPrefixOf_iff_prefix]
    exact List.prefix_append _ _
  rw [stripRefsHeads, if_pos begins, toList_branchRef]
  exact List.drop_left

namespace IsBranch

theorem tight (h : IsBranch branch) : Tight branch.toList := by
  rw [← ofSegments_segments branch.toList]
  exact tight_ofSegments h

theorem branchSegments_eq (h : IsBranch branch) :
    branchSegments branch.toList = segments branch.toList := by
  conv_lhs => rw [← ofSegments_segments branch.toList]
  exact branchSegments_ofSegments (segments_ne_nil _) h

/-- A ref has **no white space** around it. -/
theorem trim_branchRef (h : IsBranch branch) :
    trim (branchRef branch).toList = (branchRef branch).toList := by
  have some_char : branch.toList ≠ [] := by
    intro none
    have empty : ([] : List Char) ∈ segments branch.toList := by
      rw [none]
      decide
    exact (h [] empty).nonempty rfl
  refine trim_eq_self (fun c mem => ?_) fun c mem => h.tight.last c ?_
  · obtain rfl : 'r' = c := by simpa [toList_branchRef] using mem
    decide
  · rw [toList_branchRef, List.getLast?_append, List.getLast?_eq_some_getLast some_char,
      Option.some_or, ← List.getLast?_eq_some_getLast] at mem
    exact mem

/-- A ref is **not taken for a hash**. -/
theorem not_isHash_branchRef (h : IsBranch branch) : isHash (branchRef branch) = false := by
  have letter : isHexDigit 'r' = false := by decide
  rw [isHash, h.trim_branchRef, toList_branchRef, isBareHash]
  simp [letter]

/-- **What every ref comes to.** What follows `refs/heads/` is taken for a full name if it begins
with `heads/`, is refused if it is `heads` alone, and otherwise is put after `heads/`. -/
theorem qualifyBranch_branchRef (h : IsBranch branch) : qualifyBranch (branchRef branch) =
    if branch = "heads" then .error (.invalidInput "invalid branch name \"heads\"")
    else if IsUnderHeads branch then .ok branch
    else .ok ("heads/" ++ branch) := by
  have noSlash : (branchRef branch).toList.head? ≠ some '/' := by simp [toList_branchRef]
  rw [qualifyBranch, if_neg (by simp [h.not_isHash_branchRef]), if_neg noSlash]
  simp only [h.trim_branchRef, stripRefsHeads_branchRef, h.branchSegments_eq]
  obtain ⟨first, rest, divided⟩ := List.exists_cons_of_ne_nil (segments_ne_nil branch.toList)
  have whole : String.ofList (ofSegments (first :: rest)) = branch := by
    rw [← divided, ofSegments_segments, String.ofList_toList]
  have alone : branch = "heads" ↔ first = heads ∧ rest = [] := by
    rw [← segments_eq_heads_iff, divided, List.cons.injEq]
  have under : IsUnderHeads branch ↔ first = heads := by
    rw [IsUnderHeads, divided, List.head?_cons, Option.some_inj]
  rw [divided]
  simp only [alone, under]
  by_cases own : first = heads
  · by_cases last : rest = []
    · rw [if_pos own, if_pos (by simpa using last), if_pos ⟨own, last⟩, alone.mpr ⟨own, last⟩]
      decide
    · rw [if_pos own, if_neg (by simpa using last), if_neg (fun both => last both.2), if_pos own,
        whole]
  · have joined : String.ofList (ofSegments (heads :: first :: rest)) = "heads/" ++ branch := by
      rw [ofSegments_cons_cons, ← divided, ofSegments_segments]
      exact String.toList_inj.mp (by simp [heads])
    rw [if_neg own, if_neg (fun both => own both.1), if_neg own, joined]

/-- A branch under `heads` is **taken for the full name** of another one, or refused. -/
theorem qualified_of_under (h : IsBranch branch) (under : IsUnderHeads branch) :
    qualifyBranch (branchRef branch) =
      if branch = "heads" then .error (.invalidInput "invalid branch name \"heads\"")
      else .ok branch := by
  rw [h.qualifyBranch_branchRef, if_pos under]

/-- The **name** that a ref comes to, if any. -/
theorem qualified_eq_ok (h : IsBranch branch) : qualifyBranch (branchRef branch) = .ok name ↔
    (IsUnderHeads branch ∧ branch ≠ "heads" ∧ name = branch) ∨
      (¬ IsUnderHeads branch ∧ name = "heads/" ++ branch) := by
  rw [h.qualifyBranch_branchRef]
  by_cases alone : branch = "heads"
  · subst alone
    simp [isUnderHeads_heads]
  · by_cases under : IsUnderHeads branch
    · simp [alone, under, eq_comm]
    · simp [alone, under, eq_comm]

/-- A ref **keeps its branch** unless the branch lies under `heads`. -/
theorem kept_iff (h : IsBranch branch) :
    qualifyBranch (branchRef branch) = .ok ("heads/" ++ branch) ↔ ¬ IsUnderHeads branch := by
  rw [h.qualified_eq_ok]
  constructor
  · rintro (⟨-, -, same⟩ | ⟨apart, -⟩)
    · -- No text is the end of itself with more before it.
      have long := congrArg String.length same
      rw [String.length_append] at long
      have some_char : "heads/".length = 6 := by decide
      omega
    · exact apart
  · exact fun apart => .inr ⟨apart, rfl⟩

/-- The branch above another one goes by **the name of the other one**. -/
theorem qualified_headsName (h : IsBranch ("heads/" ++ branch)) :
    qualifyBranch (branchRef ("heads/" ++ branch)) = .ok ("heads/" ++ branch) := by
  refine h.qualified_eq_ok.mpr (.inl ⟨isUnderHeads_headsName branch, fun same => ?_, rfl⟩)
  have divided := segments_headsName branch
  rw [segments_eq_heads_iff.mpr same] at divided
  exact segments_ne_nil branch.toList (List.cons.inj divided).2.symm

/-- Two refs **come to one name** if one branch is the other with `heads/` before it, and that other
one does not lie under `heads` itself. -/
theorem sameName_iff (h : IsBranch branch) (h' : IsBranch other) (ne : other ≠ branch) :
    (∃ name, qualifyBranch (branchRef branch) = .ok name ∧
      qualifyBranch (branchRef other) = .ok name) ↔
    (¬ IsUnderHeads branch ∧ other = "heads/" ++ branch) ∨
      (¬ IsUnderHeads other ∧ branch = "heads/" ++ other) := by
  constructor
  · rintro ⟨name, first, second⟩
    rcases h.qualified_eq_ok.mp first with ⟨under, -, rfl⟩ | ⟨apart, rfl⟩
    · rcases h'.qualified_eq_ok.mp second with ⟨-, -, same⟩ | ⟨apart', same⟩
      · exact absurd same.symm ne
      · exact .inr ⟨apart', same⟩
    · rcases h'.qualified_eq_ok.mp second with ⟨-, -, same⟩ | ⟨-, same⟩
      · exact .inl ⟨apart, same.symm⟩
      · exact absurd ((String.append_right_inj _).mp same).symm ne
  · rintro (⟨apart, rfl⟩ | ⟨apart, rfl⟩)
    · exact ⟨_, h.kept_iff.mpr apart, h'.qualified_headsName⟩
    · exact ⟨_, h.qualified_headsName, h'.kept_iff.mpr apart⟩

end IsBranch

/-- **Which refs keep their branch.** The ref of a branch comes to `heads/` and the branch if the
branch does not lie under `heads`, and only then. One that does is refused if it is `heads` alone,
and otherwise goes by what would be the name of the branch below. So two branches come to one name
exactly if one of them, which does not lie under `heads`, is the other without the `heads/` that
is there. -/
theorem branchRef_kept (h : IsBranch branch) :
    (qualifyBranch (branchRef branch) = .ok ("heads/" ++ branch) ↔ ¬ IsUnderHeads branch) ∧
    (IsUnderHeads branch → qualifyBranch (branchRef branch) =
      if branch = "heads" then .error (.invalidInput "invalid branch name \"heads\"")
      else .ok branch) ∧
    ∀ other, IsBranch other → other ≠ branch →
      ((∃ name, qualifyBranch (branchRef branch) = .ok name ∧
        qualifyBranch (branchRef other) = .ok name) ↔
      (¬ IsUnderHeads branch ∧ other = "heads/" ++ branch) ∨
        (¬ IsUnderHeads other ∧ branch = "heads/" ++ other)) :=
  ⟨h.kept_iff, h.qualified_of_under, fun _ h' ne => h.sameName_iff h' ne⟩

/-- A branch that only **begins like** `heads` is kept, also from one with a segment of that name
further on. -/
theorem branchRef_kept_sample :
    IsBranch "headless/heads/x" ∧ IsBranch "heads/headless" ∧
    qualifyBranch (branchRef "headless/heads/x") = .ok "heads/headless/heads/x" ∧
    ¬ ∃ name, qualifyBranch (branchRef "headless/heads/x") = .ok name ∧
      qualifyBranch (branchRef "heads/headless") = .ok name := by
  have proper : IsBranch "headless/heads/x" := by decide +kernel
  have proper' : IsBranch "heads/headless" := by decide +kernel
  obtain ⟨kept, -, same⟩ := branchRef_kept proper
  refine ⟨proper, proper', kept.mpr (by decide +kernel), ?_⟩
  rw [same "heads/headless" proper' (by decide)]
  decide +kernel

/-- The ref of the branch `heads/main` comes to the name of `main`, which is not the name that it
has as a **main branch**, and the ref of the branch `heads` is refused. -/
theorem branchRef_mistaken :
    IsBranch "heads/main" ∧ qualifyBranch (branchRef "heads/main") ≠ .ok "heads/heads/main" ∧
    IsBranch "main" ∧ qualifyBranch (branchRef "heads/main") = qualifyBranch (branchRef "main") ∧
    qualifyBranch (branchRef "main") = .ok "heads/main" ∧
    mainBranch (some "heads/main") = "heads/heads/main" ∧
    IsBranch "heads" ∧ qualifyBranch (branchRef "heads") ≠ .ok "heads/heads" := by
  decide +kernel

end Git

end Dispatch
