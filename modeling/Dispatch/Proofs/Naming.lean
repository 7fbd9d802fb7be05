import Dispatch.Git.Branch
import Dispatch.Proofs.Declaration
import Dispatch.Repository.Name

/-!
# Names of branches and repositories

A branch has one full name, however it is written: under its full name it is found again, and that
name is what every other way of writing it comes to. The name of a repository has two parts.

## Main definitions

* `Git.IsBranchSegment`, `Git.IsFullName`: what the full name of a branch consists of.
* `Repository.IsPart`, `Repository.IsNamed`: what the name of a repository consists of.

## Main results

* `Git.qualifyBranch_isFullName`: branches get full names.
* `Git.IsFullName.qualifyBranch_eq`: a full name stays as it is.
* `Git.IsFullName.not_isHash`: a full name is not taken for a hash.
* `Repository.isName_iff`: which texts are names of repositories.
-/

namespace Dispatch

/-! ### Branches -/

namespace Git

open Text

variable {part cs : List Char} {parts : List (List Char)} {branch name : String}

/-- A **segment of a branch name** is not empty, stands for no directory relative to another, and
has no white space at its ends. -/
structure IsBranchSegment (part : List Char) : Prop where
  nonempty : part ≠ []
  notHere : part ≠ ['.']
  notAbove : part ≠ ['.', '.']
  tight : Tight part
  noSlash : '/' ∉ part

/-- A **full name** is `heads/` and at least one segment. -/
def IsFullName (name : String) : Prop :=
  ∃ parts, parts ≠ [] ∧ (∀ part ∈ parts, IsBranchSegment part) ∧
    name = String.ofList (ofSegments (heads :: parts))

theorem isBranchSegment_heads : IsBranchSegment heads where
  nonempty := by decide
  notHere := by decide
  notAbove := by decide
  tight := ⟨by simp [heads, isBlank], by simp [heads, isBlank]⟩
  noSlash := by decide

theorem IsBranchSegment.isProper (h : IsBranchSegment part) : isProperSegment part = true := by
  simp [isProperSegment, h.nonempty, h.notHere, h.notAbove]

/-- What a text is divided into are **segments of a branch name**. -/
theorem isBranchSegment_of_mem (mem : part ∈ branchSegments cs) : IsBranchSegment part := by
  obtain ⟨mem, proper⟩ := List.mem_filter.mp mem
  obtain ⟨segment, divides, rfl⟩ := List.mem_map.mp mem
  simp only [isProperSegment, Bool.and_eq_true, Bool.not_eq_true', List.isEmpty_eq_false_iff,
    bne_iff_ne] at proper
  exact
    { nonempty := proper.1.1
      notHere := proper.1.2
      notAbove := proper.2
      tight := tight_trim segment
      noSlash := fun slash => notMem_of_mem_segments divides ((trim_sublist segment).subset slash) }

/-- Segments of a branch name **are found again**. -/
theorem branchSegments_ofSegments (some_part : parts ≠ [])
    (proper : ∀ part ∈ parts, IsBranchSegment part) :
    branchSegments (ofSegments parts) = parts := by
  have tight : parts.map trim = parts :=
    (List.map_congr_left fun part mem => (proper part mem).tight.trim_eq).trans (List.map_id parts)
  rw [branchSegments, segments_ofSegments (fun part mem => (proper part mem).noSlash) some_part,
    tight, List.filter_eq_self]
  exact fun part mem => (proper part mem).isProper

/-- Between tight segments that are not empty, a text **is tight**. -/
theorem tight_ofSegments (proper : ∀ part ∈ parts, IsBranchSegment part) :
    Tight (ofSegments parts) := by
  induction parts with
  | nil => exact ⟨by simp [ofSegments], by simp [ofSegments]⟩
  | cons part rest ih =>
      obtain ⟨own, proper⟩ := List.forall_mem_cons.mp proper
      cases rest with
      | nil => simpa [ofSegments] using own.tight
      | cons next rest =>
          have joined := ofSegments_cons_cons part next rest
          have more : ofSegments (next :: rest) ≠ [] := by
            intro none
            have divided := segments_ofSegments (fun part mem => (proper part mem).noSlash)
              (List.cons_ne_nil next rest)
            rw [none, segments, List.splitOn_nil] at divided
            exact (proper next List.mem_cons_self).nonempty (List.cons.inj divided).1.symm
          constructor
          · intro c mem
            rw [joined, List.head?_append, List.head?_eq_some_head own.nonempty, Option.some_or,
              ← List.head?_eq_some_head] at mem
            exact own.tight.first c mem
          · intro c mem
            rw [joined, List.getLast?_append, List.getLast?_cons_of_ne_nil more,
              List.getLast?_eq_some_getLast more, Option.some_or,
              ← List.getLast?_eq_some_getLast] at mem
            exact (ih proper).last c mem

/-- What a branch is called by is a **full name**. -/
theorem qualifyBranch_isFullName (h : qualifyBranch branch = .ok name) : IsFullName name := by
  have proper : ∀ part ∈ branchSegments (stripRefsHeads (trim branch.toList)),
      IsBranchSegment part := fun _ => isBranchSegment_of_mem
  rw [qualifyBranch] at h
  split at h
  · cases h
  split at h
  · cases h
  simp only at h
  cases divided : branchSegments (stripRefsHeads (trim branch.toList)) with
  | nil =>
      rw [divided] at h
      cases h
  | cons first rest =>
      rw [divided] at h proper
      simp only at h
      split at h
      · next own =>
        split at h
        · cases h
        · next more =>
          subst own
          exact ⟨rest, by simpa using more, (List.forall_mem_cons.mp proper).2,
            (Except.ok.inj h).symm⟩
      · exact ⟨first :: rest, List.cons_ne_nil _ _, proper, (Except.ok.inj h).symm⟩

namespace IsFullName

theorem starts (h : IsFullName name) : ∃ rest, name.toList = 'h' :: rest := by
  obtain ⟨parts, some_part, -, rfl⟩ := h
  obtain ⟨first, rest, rfl⟩ := List.exists_cons_of_ne_nil some_part
  exact ⟨_, by simp [ofSegments, List.intercalate_cons_cons, heads]; rfl⟩

theorem trim_eq (h : IsFullName name) : trim name.toList = name.toList := by
  obtain ⟨parts, -, proper, rfl⟩ := h
  rw [String.toList_ofList]
  exact (tight_ofSegments (List.forall_mem_cons.mpr ⟨isBranchSegment_heads, proper⟩)).trim_eq

/-- A full name is **not taken for a hash**. -/
theorem not_isHash (h : IsFullName name) : isHash name = false := by
  obtain ⟨rest, starts⟩ := h.starts
  have letter : isHexDigit 'h' = false := by decide
  rw [isHash, h.trim_eq, starts, isBareHash, List.all_cons, letter, Bool.false_and, Bool.and_false]

/-- The segments of a full name **are found again**. -/
theorem branchSegments_eq (h : IsFullName name) :
    ∃ parts, parts ≠ [] ∧ branchSegments name.toList = heads :: parts ∧
      name = String.ofList (ofSegments (heads :: parts)) := by
  obtain ⟨parts, some_part, proper, rfl⟩ := h
  refine ⟨parts, some_part, ?_, rfl⟩
  rw [String.toList_ofList]
  exact branchSegments_ofSegments (List.cons_ne_nil _ _)
    (List.forall_mem_cons.mpr ⟨isBranchSegment_heads, proper⟩)

/-- A full name **stays as it is**. -/
theorem qualifyBranch_eq (h : IsFullName name) : qualifyBranch name = .ok name := by
  obtain ⟨rest, starts⟩ := h.starts
  obtain ⟨parts, some_part, divided, same⟩ := h.branchSegments_eq
  have noSlash : name.toList.head? ≠ some '/' := by simp [starts]
  have stripped : stripRefsHeads name.toList = name.toList := by
    rw [starts]
    rfl
  rw [qualifyBranch, if_neg (by simp [h.not_isHash]), if_neg noSlash]
  simp only [h.trim_eq, stripped, divided]
  rw [if_pos trivial, if_neg (by simp [some_part]), ← same]

end IsFullName

end Git

/-! ### Repositories -/

namespace Repository

open Text

variable {part : List Char} {name owner repo : String}

/-- A **part of the name** of a repository is not empty, neither starts nor ends with a point, and
holds no forbidden character. -/
structure IsPart (part : List Char) : Prop where
  nonempty : part ≠ []
  noSlash : '/' ∉ part
  first : part.head? ≠ some '.'
  last : part.getLast? ≠ some '.'
  allowed : ∀ c ∈ part, c ≠ '<' ∧ c ≠ '>' ∧ c ≠ '&' ∧ c ≠ '%'

/-- A **name** is `owner/repo`. -/
structure IsNamed (name owner repo : String) : Prop where
  joined : name = owner ++ "/" ++ repo
  ofOwner : IsPart owner.toList
  ofRepo : IsPart repo.toList

theorem isCleanPart_iff : isCleanPart part = true ↔ part.head? ≠ some '.' ∧
    part.getLast? ≠ some '.' ∧ ∀ c ∈ part, c ≠ '<' ∧ c ≠ '>' ∧ c ≠ '&' ∧ c ≠ '%' := by
  simp [isCleanPart, isForbidden, and_assoc]

/-- A part passes its check if there is **nothing wrong** with it. -/
theorem checkPart_eq_ok (name : String) (noSlash : '/' ∉ part) :
    checkPart name part = .ok () ↔ IsPart part := by
  rw [checkPart]
  split
  · next none => exact iff_of_false (fun h => nomatch h) fun h => h.nonempty (by simpa using none)
  · next some_char =>
    split
    · next clean =>
      obtain ⟨first, last, allowed⟩ := isCleanPart_iff.mp clean
      exact iff_of_true rfl ⟨by simpa using some_char, noSlash, first, last, allowed⟩
    · next dirty =>
      exact iff_of_false (fun h => nomatch h) fun h =>
        dirty (isCleanPart_iff.mpr ⟨h.first, h.last, h.allowed⟩)

/-- A name is divided into **its two parts**. -/
theorem split_eq_ok : split name = .ok (owner, repo) ↔ IsNamed name owner repo := by
  constructor
  · intro h
    rw [split] at h
    split at h
    · next own rest divided =>
      have clean (part : List Char) (mem : part ∈ [own, rest]) : '/' ∉ part :=
        notMem_of_mem_segments (divided ▸ mem)
      obtain ⟨_, first, h⟩ := Except.bind_eq_ok.mp h
      obtain ⟨_, second, h⟩ := Except.bind_eq_ok.mp h
      cases h
      refine ⟨String.toList_inj.mp ?_, ?_, ?_⟩
      · rw [← ofSegments_segments name.toList, divided]
        simp [ofSegments]
      · rw [String.toList_ofList]
        exact (checkPart_eq_ok name (clean own (by simp))).mp first
      · rw [String.toList_ofList]
        exact (checkPart_eq_ok name (clean rest (by simp))).mp second
    · cases h
  · rintro ⟨rfl, own, rest⟩
    have divided : segments (owner ++ "/" ++ repo).toList = [owner.toList, repo.toList] := by
      have joined : (owner ++ "/" ++ repo).toList = owner.toList ++ '/' :: repo.toList := by simp
      rw [joined, segments, List.splitOn_append_cons_self, ← segments, ← segments,
        segments_eq_singleton own.noSlash, segments_eq_singleton rest.noSlash]
      rfl
    have first := (checkPart_eq_ok (owner ++ "/" ++ repo) own.noSlash).mpr own
    have second := (checkPart_eq_ok (owner ++ "/" ++ repo) rest.noSlash).mpr rest
    rw [split, divided]
    refine Except.bind_eq_ok.mpr ⟨(), first, Except.bind_eq_ok.mpr ⟨(), second, ?_⟩⟩
    rw [String.ofList_toList, String.ofList_toList]
    rfl

/-- **Which texts** are names of repositories. -/
theorem isName_iff : isName name = true ↔ ∃ owner repo, IsNamed name owner repo := by
  simp only [← split_eq_ok]
  rw [isName]
  cases split name with
  | error e => exact iff_of_false Bool.false_ne_true fun ⟨_, _, h⟩ => nomatch h
  | ok parts => exact iff_of_true rfl ⟨parts.1, parts.2, rfl⟩

end Repository

end Dispatch
