import Dispatch.Config.Directory

/-!
# Directories and their paths

Directories are compared by whole segments: one lies above another if its path is where the path to
the other begins.

## Main definitions

* `Directory.path`: the segments that lead from the root to a directory.
* `Directory.Above`: one directory lies strictly above another.
* `Directory.LeadsDown`: a segment that leads further down.

## Main results

* `Directory.path_injective`: different directories have different paths.
* `Directory.path_normalize`: the path of a normal form consists of the steps that lead there.
* `Directory.normalize_sublist`: a normal form has nothing that its spelling has not.
* `Directory.steps_ofSegments`: segments that lead down are steps, without white space around them.
-/

namespace Dispatch.Directory

variable {dir dir' above spelling : String} {segment : List Char} {parts : List (List Char)}

/-- The **path** to a directory: the segments that lead there from the root. -/
def path (dir : String) : List (List Char) := if dir = root then [] else Text.segments dir.toList

/-- A directory lies strictly **above** another if the path to it is where the path to the other
begins. -/
structure Above (above dir : String) : Prop where
  begins : path above <+: path dir
  other : above ≠ dir

@[simp] theorem path_root : path root = [] := rfl

theorem path_of_ne (below : dir ≠ root) : path dir = Text.segments dir.toList := if_neg below

theorem path_eq_nil : path dir = [] ↔ dir = root := by
  rw [path]
  split
  · next top => simp [top]
  · next below => simp [below, Text.segments_ne_nil]

/-- Different directories have **different paths**. -/
theorem path_injective (same : path dir = path dir') : dir = dir' := by
  by_cases top : dir = root
  · rw [top, path_root] at same
    rw [top, path_eq_nil.mp same.symm]
  · have top' : dir' ≠ root := fun top' => top (path_eq_nil.mp (same.trans (path_eq_nil.mpr top')))
    rw [path_of_ne top, path_of_ne top'] at same
    exact String.toList_inj.mp (Text.segments_injective same)

/-- No two directories lie above each other. -/
theorem Above.asymm (h : Above dir dir') : ¬ Above dir' dir :=
  fun back => h.other (path_injective (h.begins.eq_of_length_le back.begins.length_le))

/-- The path of a **normal form** consists of the steps of any of its spellings. -/
theorem path_normalize (h : normalize spelling = .ok dir) : path dir = steps spelling.toList := by
  rw [normalize] at h
  split at h
  · cases h
  obtain rfl := Except.ok.inj h
  cases parts : steps spelling.toList with
  | nil => rfl
  | cons first rest =>
      have step (part : List Char) (mem : part ∈ first :: rest) :
          '/' ∉ part ∧ part ≠ rootText := by
        obtain ⟨mem, moves⟩ := List.mem_filter.mp (parts ▸ mem)
        exact ⟨Text.notMem_of_mem_segments mem, by simp_all [isIdle]⟩
      have divided : Text.segments (Text.ofSegments (first :: rest)) = first :: rest :=
        Text.segments_ofSegments (fun part mem => (step part mem).1) (List.cons_ne_nil _ _)
      have below : String.ofList (ofSteps (first :: rest)) ≠ root := by
        intro top
        have chars : Text.ofSegments (first :: rest) = rootText := String.ofList_injective top
        have single : Text.segments rootText = [rootText] := by decide
        rw [chars, single] at divided
        exact (step first List.mem_cons_self).2 (List.cons.inj divided).1.symm
      rw [path_of_ne below, String.toList_ofList, ofSteps, divided]
      simp

/-! ### Spellings -/

/-- A segment that **leads down**: from a directory into another one, or to a file. -/
structure LeadsDown (segment : List Char) : Prop where
  nonempty : segment ≠ []
  notHere : segment ≠ rootText
  notAbove : segment ≠ parentText

instance (segment : List Char) : Decidable (LeadsDown segment) :=
  decidable_of_iff (segment ≠ [] ∧ segment ≠ rootText ∧ segment ≠ parentText)
    ⟨fun h => ⟨h.1, h.2.1, h.2.2⟩, fun h => ⟨h.nonempty, h.notHere, h.notAbove⟩⟩

theorem normalize_eq_ok : normalize spelling = .ok dir ↔
    parentText ∉ steps spelling.toList ∧
      dir = String.ofList (ofSteps (steps spelling.toList)) := by
  rw [normalize]
  by_cases leadsUp : parentText ∈ steps spelling.toList
  · simp [leadsUp]
  · simp [leadsUp, eq_comm]

/-- A normal form is the root, or has nothing that its spelling has not **within white space**. -/
theorem normalize_sublist (h : normalize spelling = .ok dir) :
    dir = root ∨ dir.toList.Sublist (Text.trim spelling.toList) := by
  obtain ⟨-, rfl⟩ := normalize_eq_ok.mp h
  cases found : steps spelling.toList with
  | nil => exact .inl rfl
  | cons first rest =>
      have fewer : (first :: rest).Sublist (Text.segments (Text.trim spelling.toList)) :=
        found ▸ List.filter_sublist
      have within := Text.ofSegments_sublist fewer
      rw [Text.ofSegments_segments] at within
      rw [String.toList_ofList]
      exact .inr within

/-- A normal form is **never empty**. -/
theorem normalize_ne_empty (h : normalize spelling = .ok dir) : dir ≠ "" := by
  rintro rfl
  have idle : ([] : List Char) ∈ steps spelling.toList := by
    rw [← path_normalize h, path_of_ne (by decide)]
    exact List.mem_cons_self
  simpa [isIdle] using (List.mem_filter.mp idle).2

/-- Segments that lead down are the steps of the text that they make up, if there is **no white
space around** that. -/
theorem steps_ofSegments (some_part : parts ≠ []) (clean : ∀ part ∈ parts, '/' ∉ part)
    (down : ∀ part ∈ parts, LeadsDown part) (tight : Text.Tight (Text.ofSegments parts)) :
    steps (Text.ofSegments parts) = parts := by
  rw [steps, tight.trim_eq, Text.segments_ofSegments clean some_part, List.filter_eq_self]
  intro part mem
  simp [isIdle, (down part mem).nonempty, (down part mem).notHere]

end Dispatch.Directory
