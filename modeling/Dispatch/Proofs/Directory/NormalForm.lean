import Dispatch.Proofs.Directory
import Dispatch.Selection.Directories
import Mathlib.Data.List.Basic

/-!
# Normal forms of directories

What a directory is brought to consists of segments that lead down, and spellings that lead through
the same segments come to the same. It stays as it is when it is brought into its normal form once
more, unless there is white space around it. That can be although the white space around the
spelling is dropped: the segments that change nothing are dropped after it, and then a segment that
begins or ends with white space may come to stand at the end.

## Main definitions

* `Directory.IsNormal`: the form that directories are brought to.
* `Directory.HasProperEnds`: a spelling neither begins nor ends with a segment that changes nothing.

## Main results

* `Directory.normalize_eq_self`: which texts stay as they are.
* `Directory.normalForm_stable`: what normal forms look like, and which of them are stable.
* `Directory.normalForm_mistaken`: that not all of them are.
-/

namespace Dispatch

namespace Directory

open Text

variable {dir dir' spelling spelling' : String} {first last : List Char}
  {parts rest : List (List Char)}

/-- The **normal form** of a directory: the root, or segments that lead down. -/
def IsNormal (dir : String) : Prop :=
  dir = root ∨ ∃ parts, parts ≠ [] ∧ (∀ part ∈ parts, '/' ∉ part ∧ LeadsDown part) ∧
    dir = String.ofList (ofSegments parts)

/-- There are **proper ends** to a spelling: without the white space around it, neither its first
segment nor its last one is idle. -/
def HasProperEnds (spelling : String) : Prop :=
  (∀ first ∈ (segments (trim spelling.toList)).head?, isIdle first = false) ∧
    ∀ last ∈ (segments (trim spelling.toList)).getLast?, isIdle last = false

/-! ### The form -/

theorem isIdle_eq_false {segment : List Char} :
    isIdle segment = false ↔ segment ≠ [] ∧ segment ≠ rootText := by
  simp [isIdle]

theorem ofSteps_of_ne_nil (some_part : parts ≠ []) : ofSteps parts = ofSegments parts := by
  obtain ⟨first, rest, rfl⟩ := List.exists_cons_of_ne_nil some_part
  simp [ofSteps]

/-- Directories are brought to their **normal form**. -/
theorem isNormal_of_normalize (h : normalize spelling = .ok dir) : IsNormal dir := by
  obtain ⟨within, rfl⟩ := normalize_eq_ok.mp h
  cases found : steps spelling.toList with
  | nil => exact .inl rfl
  | cons first rest =>
      refine .inr ⟨first :: rest, List.cons_ne_nil _ _, fun part mem => ?_, rfl⟩
      rw [← found] at mem
      obtain ⟨divides, moves⟩ := List.mem_filter.mp mem
      obtain ⟨nonempty, notHere⟩ := isIdle_eq_false.mp (by simpa using moves)
      exact ⟨notMem_of_mem_segments divides, nonempty, notHere,
        fun leadsUp => within (leadsUp ▸ mem)⟩

/-- A text **stays as it is** if it is a normal form without white space around it, and only
then. -/
theorem normalize_eq_self : normalize dir = .ok dir ↔ IsNormal dir ∧ Tight dir.toList := by
  constructor
  · intro h
    refine ⟨isNormal_of_normalize h, ?_⟩
    rcases normalize_sublist h with rfl | within
    · decide
    · -- A normal form is part of what trimming leaves, so here trimming leaves all.
      exact tight_iff.mpr ((trim_sublist _).antisymm within)
  · rintro ⟨rfl | ⟨parts, some_part, down, rfl⟩, tight⟩
    · rfl
    · rw [String.toList_ofList] at tight
      have same : steps (String.ofList (ofSegments parts)).toList = parts := by
        rw [String.toList_ofList]
        exact steps_ofSegments some_part (fun part mem => (down part mem).1)
          (fun part mem => (down part mem).2) tight
      refine normalize_eq_ok.mpr ⟨fun mem => ?_, by rw [same, ofSteps_of_ne_nil some_part]⟩
      rw [same] at mem
      exact (down _ mem).2.notAbove rfl

/-- Spellings come to **one normal form** if they lead through the same segments, and only then. -/
theorem normalize_inj (h : normalize spelling = .ok dir) (h' : normalize spelling' = .ok dir') :
    dir = dir' ↔ steps spelling.toList = steps spelling'.toList := by
  rw [← path_normalize h, ← path_normalize h']
  exact ⟨congrArg path, fun same => path_injective same⟩

/-! ### The ends -/

theorem head?_ofSegments (some_char : first ≠ []) (rest : List (List Char)) :
    (ofSegments (first :: rest)).head? = first.head? := by
  cases rest with
  | nil => simp [ofSegments]
  | cons next rest =>
      rw [ofSegments_cons_cons, List.head?_append, List.head?_eq_some_head some_char,
        Option.some_or]

theorem getLast?_ofSegments (some_char : last ≠ []) (parts : List (List Char)) :
    (ofSegments (parts ++ [last])).getLast? = last.getLast? := by
  by_cases none_before : parts = []
  · simp [none_before, ofSegments]
  · rw [ofSegments_concat none_before, List.getLast?_append, List.getLast?_cons_of_ne_nil some_char,
      List.getLast?_eq_some_getLast some_char, Option.some_or]

/-- With proper ends of the spelling, there is **no white space** around the normal form. -/
theorem HasProperEnds.tight (ends : HasProperEnds spelling)
    (h : normalize spelling = .ok dir) : Tight dir.toList := by
  obtain ⟨-, rfl⟩ := normalize_eq_ok.mp h
  have trimmed := tight_trim spelling.toList
  rw [← ofSegments_segments (trim spelling.toList)] at trimmed
  have some_part := segments_ne_nil (trim spelling.toList)
  obtain ⟨begins, stops⟩ := ends
  rw [String.toList_ofList]
  constructor
  · obtain ⟨first, rest, divided⟩ := List.exists_cons_of_ne_nil some_part
    have moves : isIdle first = false := begins first (by rw [divided]; rfl)
    have some_char := (isIdle_eq_false.mp moves).1
    have found : steps spelling.toList = first :: rest.filter (!isIdle ·) := by
      rw [steps, divided, List.filter_cons_of_pos (by simpa using moves)]
    rw [found, ofSteps_of_ne_nil (List.cons_ne_nil _ _), head?_ofSegments some_char,
      ← head?_ofSegments some_char rest, ← divided]
    exact trimmed.first
  · obtain ⟨init, last, divided⟩ := (List.eq_nil_or_concat _).resolve_left some_part
    rw [List.concat_eq_append] at divided
    have moves : isIdle last = false := stops last (by rw [divided]; simp)
    have some_char := (isIdle_eq_false.mp moves).1
    have found : steps spelling.toList = init.filter (!isIdle ·) ++ [last] := by
      rw [steps, divided, List.filter_append]
      simp [moves]
    rw [found, ofSteps_of_ne_nil (by simp), getLast?_ofSegments some_char,
      ← getLast?_ofSegments some_char init, ← divided]
    exact trimmed.last

/-- **Which normal forms are stable.** What a spelling is brought to is the root or consists of
segments that lead down. It stays as it is when it is brought into its normal form again if there
is no white space around it, and only then; there is none if the spelling has proper ends. Two
spellings come to the same exactly if they lead through the same segments. -/
theorem normalForm_stable (h : normalize spelling = .ok dir) :
    IsNormal dir ∧
    (normalize dir = .ok dir ↔ Tight dir.toList) ∧
    (HasProperEnds spelling → normalize dir = .ok dir) ∧
    ∀ spelling' dir', normalize spelling' = .ok dir' →
      (dir = dir' ↔ steps spelling.toList = steps spelling'.toList) := by
  have normal := isNormal_of_normalize h
  have stable : normalize dir = .ok dir ↔ Tight dir.toList :=
    normalize_eq_self.trans (and_iff_right normal)
  exact ⟨normal, stable, fun ends => stable.mpr (ends.tight h), fun _ _ h' => normalize_inj h h'⟩

/-- White space around the spelling and **within** the directory does no harm. -/
theorem normalForm_stable_sample :
    normalize " /my lib// src/./" = .ok "my lib/ src" ∧ IsNormal "my lib/ src" ∧
      normalize "my lib/ src" = .ok "my lib/ src" := by
  have brought : normalize " /my lib// src/./" = .ok "my lib/ src" := by decide +kernel
  obtain ⟨normal, stable, -⟩ := normalForm_stable brought
  exact ⟨brought, normal, stable.mpr (by decide +kernel)⟩

/-- White space that was **behind a segment that changes nothing** is dropped only the second time,
so that the directory of the file to which the first form leads is another one; and what is left
then may be refused. -/
theorem normalForm_mistaken :
    normalize "./ lib" = .ok " lib" ∧ normalize " lib" = .ok "lib" ∧
    Selection.declarationPath " lib" = " lib/task.kdl" ∧
    Selection.directoryOf " lib/task.kdl" = .ok "lib" ∧
    normalize "/ .." = .ok " .." ∧
    normalize " .." = .error (.invalidReference "directory \" ..\" escapes the repository") := by
  decide +kernel

end Directory

end Dispatch
