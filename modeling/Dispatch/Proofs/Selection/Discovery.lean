import Dispatch.Proofs.Directory.NormalForm
import Dispatch.Proofs.Selection
import Dispatch.Proofs.Submission.Loading

/-!
# From a declaration to its directory and back

A task is discovered by the path of the file that declares it, of which its directory is kept, and
later the file is fetched by a path that is made from the directory. The two paths are the same
unless there is white space around the directory in the first one: that is dropped when the
directory is brought into its normal form.

## Main definitions

* `Selection.holder`: the segments of a path that lead to the directory of the file.
* `Selection.writtenDirectory`: that directory, as the path has it.
* `Selection.IsDeclaration`: the path of a task declaration in a tree of files.
* `Selection.IsTidy`: there is no white space around the directory.

## Main results

* `Selection.IsDeclaration.leadsBack_iff`: when a directory leads back to its declaration.
* `Selection.declarations_leadBack`: what is fetched is what was discovered.
* `Selection.declaration_mistaken`: that this is not so with white space around a directory.
-/

namespace Dispatch

namespace Selection

open Directory

variable {path path' dir : String}

/-! ### Directories as paths have them -/

/-- The **holder** of a file: the segments that lead to the directory that it is in. -/
def holder (path : String) : List (List Char) := (Text.segments path.toList).dropLast

/-- The directory of a file **as its path has it**. -/
def writtenDirectory (path : String) : String := String.ofList (ofSteps (holder path))

/-- There is **no white space around** the directory of a file. -/
def IsTidy (path : String) : Prop := Text.Tight (Text.ofSegments (holder path))

instance (path : String) : Decidable (IsTidy path) := inferInstanceAs (Decidable (Text.Tight _))

theorem noSlash_of_mem_holder {segment : List Char} (mem : segment ∈ holder path) :
    '/' ∉ segment :=
  Text.notMem_of_mem_segments (List.dropLast_subset _ mem)

/-- The directory that is found for a file is the **normal form** of the one that its path has. -/
theorem directoryOf_eq (path : String) : directoryOf path =
    if holder path = [] then .ok root
    else normalize (String.ofList (Text.ofSegments (holder path))) := by
  rw [directoryOf, ← holder]
  cases holder path <;> rfl

theorem segments_eq (name : fileName path = TaskDeclaration.fileName) :
    Text.segments path.toList = holder path ++ [TaskDeclaration.fileName.toList] := by
  have some_part := Text.segments_ne_nil path.toList
  have last : (Text.segments path.toList).getLast some_part = TaskDeclaration.fileName.toList := by
    rw [← name, fileName, String.toList_ofList, List.getLastD_eq_getLast?,
      List.getLast?_eq_some_getLast some_part, Option.getD_some]
  rw [holder, ← last, List.dropLast_append_getLast]

/-- The path of a **task declaration** in a tree of files. -/
structure IsDeclaration (path : String) : Prop where
  down : ∀ segment ∈ Text.segments path.toList, LeadsDown segment
  name : fileName path = TaskDeclaration.fileName

instance (path : String) : Decidable (IsDeclaration path) :=
  decidable_of_iff ((∀ segment ∈ Text.segments path.toList, LeadsDown segment) ∧
      fileName path = TaskDeclaration.fileName)
    ⟨fun h => ⟨h.1, h.2⟩, fun h => ⟨h.down, h.name⟩⟩

namespace IsDeclaration

theorem leadsDown (h : IsDeclaration path) {segment : List Char} (mem : segment ∈ holder path) :
    LeadsDown segment :=
  h.down segment (List.dropLast_subset _ mem)

/-- A path has **the root** for the directory if it is no more than the name of the file. -/
theorem written_eq_root (h : IsDeclaration path) :
    writtenDirectory path = root ↔ holder path = [] := by
  constructor
  · intro top
    cases above : holder path with
    | nil => rfl
    | cons first rest =>
        rw [writtenDirectory, above] at top
        have chars : Text.ofSegments (first :: rest) = rootText := String.ofList_injective top
        have single : Text.segments rootText = [rootText] := by decide
        have divided : Text.segments (Text.ofSegments (first :: rest)) = first :: rest :=
          Text.segments_ofSegments (fun _ mem => noSlash_of_mem_holder (above ▸ mem))
            (List.cons_ne_nil _ _)
        rw [chars, single] at divided
        exact absurd (List.cons.inj divided).1.symm
          (h.leadsDown (above ▸ List.mem_cons_self)).notHere
  · intro atTop
    rw [writtenDirectory, atTop]
    rfl

/-- The directory as the path has it **leads back**. -/
theorem declarationPath_written (h : IsDeclaration path) :
    declarationPath (writtenDirectory path) = path := by
  have whole := congrArg Text.ofSegments (segments_eq h.name)
  rw [Text.ofSegments_segments] at whole
  refine String.toList_inj.mp ?_
  by_cases top : holder path = []
  · rw [declarationPath, if_pos (h.written_eq_root.mpr top), whole, top]
    simp [Text.ofSegments]
  · rw [declarationPath, if_neg (mt h.written_eq_root.mp top), whole, writtenDirectory,
      Text.ofSegments_concat top]
    obtain ⟨first, rest, above⟩ := List.exists_cons_of_ne_nil top
    simp [above, ofSteps]

/-- What is found is the directory **as the path has it**, if there is no white space around that,
and only then. -/
theorem directoryOf_eq_iff (h : IsDeclaration path) :
    directoryOf path = .ok (writtenDirectory path) ↔ IsTidy path := by
  rw [directoryOf_eq, IsTidy]
  by_cases top : holder path = []
  · rw [if_pos top, h.written_eq_root.mpr top, top]
    exact iff_of_true rfl (by decide)
  · have below : writtenDirectory path = String.ofList (Text.ofSegments (holder path)) := by
      obtain ⟨first, rest, above⟩ := List.exists_cons_of_ne_nil top
      rw [writtenDirectory, above]
      rfl
    have normal : IsNormal (writtenDirectory path) :=
      .inr ⟨_, top, fun _ mem => ⟨noSlash_of_mem_holder mem, h.leadsDown mem⟩, below⟩
    rw [if_neg top, ← below, normalize_eq_self, and_iff_right normal, below, String.toList_ofList]

/-- The directory that is found **leads back** to the declaration if there is no white space around
it there, and only then. -/
theorem leadsBack_iff (h : IsDeclaration path) :
    (∃ dir, directoryOf path = .ok dir ∧ declarationPath dir = path) ↔ IsTidy path := by
  rw [← h.directoryOf_eq_iff]
  constructor
  · rintro ⟨dir, found, back⟩
    rw [found, declarationPath_injective (back.trans h.declarationPath_written.symm)]
  · exact fun found => ⟨_, found, h.declarationPath_written⟩

/-- Without white space around it, the directory of a declaration **leads back**. -/
theorem leadsBack (h : IsDeclaration path) (tidy : IsTidy path)
    (found : directoryOf path = .ok dir) : declarationPath dir = path := by
  obtain ⟨_, found', back⟩ := h.leadsBack_iff.mpr tidy
  obtain rfl := Except.ok.inj (found.symm.trans found')
  exact back

end IsDeclaration

/-! ### Discovering and fetching -/

/-- Of tidy declarations, the task directories are found, and their files are **those that were
discovered**, except for ignored ones. -/
theorem mem_declarationPaths {c : RepoConfig} {files : List String}
    (tidy : ∀ path ∈ files, fileName path = TaskDeclaration.fileName →
      IsDeclaration path ∧ IsTidy path) :
    ∃ tasks, taskDirectories c files = .ok tasks ∧
      ∀ path, path ∈ tasks.keys.map declarationPath ↔
        path ∈ files ∧ fileName path = TaskDeclaration.fileName ∧
          ∃ dir, directoryOf path = .ok dir ∧ c.isIgnored dir = false := by
  obtain ⟨tasks, found⟩ : ∃ tasks, taskDirectories c files = .ok tasks := by
    refine exists_taskDirectories fun path mem name => ?_
    obtain ⟨declares, clean⟩ := tidy path mem name
    exact ⟨_, declares.directoryOf_eq_iff.mpr clean⟩
  refine ⟨tasks, found, fun path => ?_⟩
  simp only [List.mem_map, mem_taskDirectories found]
  constructor
  · rintro ⟨dir, ⟨path', mem, name, own, kept⟩, rfl⟩
    obtain ⟨declares, clean⟩ := tidy path' mem name
    rw [declares.leadsBack clean own]
    exact ⟨mem, name, dir, own, kept⟩
  · rintro ⟨mem, name, dir, own, kept⟩
    obtain ⟨declares, clean⟩ := tidy path mem name
    exact ⟨dir, ⟨path, mem, name, own, kept⟩, declares.leadsBack clean own⟩

/-- **What is fetched is what was discovered.** The directory of a task declaration leads back to
the file, for whatever commit it is fetched, if there is no white space around the directory in the
path, and only then. Different files like that have different directories, and in a tree where all
declarations are like that, the declarations of the task directories are those of the tree, except
for ignored directories. -/
theorem declarations_leadBack (c : RepoConfig) (files : List String) :
    (∀ path, IsDeclaration path →
      ((∃ dir, directoryOf path = .ok dir ∧ declarationPath dir = path ∧ ∀ r : Resolved, ∃ next,
        Picking.loadOne r dir = .host r.token (.getFile r.fork.name r.head.sha path) next) ↔
          IsTidy path)) ∧
    (∀ path path' dir, IsDeclaration path → IsDeclaration path' → IsTidy path → IsTidy path' →
      directoryOf path = .ok dir → directoryOf path' = .ok dir → path = path') ∧
    ((∀ path ∈ files, fileName path = TaskDeclaration.fileName →
        IsDeclaration path ∧ IsTidy path) →
      ∃ tasks, taskDirectories c files = .ok tasks ∧
        ∀ path, path ∈ tasks.keys.map declarationPath ↔
          path ∈ files ∧ fileName path = TaskDeclaration.fileName ∧
            ∃ dir, directoryOf path = .ok dir ∧ c.isIgnored dir = false) := by
  refine ⟨fun path declares => ?_, fun path path' dir declares declares' tidy tidy' own own' => ?_,
    mem_declarationPaths⟩
  · rw [← declares.leadsBack_iff]
    refine exists_congr fun dir => and_congr_right fun _ => ⟨And.left, fun back => ⟨back, ?_⟩⟩
    exact fun r => ⟨_, by rw [Picking.loadOne, back]⟩
  · exact (declares.leadsBack tidy own).symm.trans (declares'.leadsBack tidy' own')

end Selection

namespace Sample

/-- The files of a repository with white space inside the name of a directory. -/
def spacedFiles : List String := ["task.kdl", "my lib/ src/main.c", "my lib/ tests/task.kdl"]

end Sample

namespace Selection

/-- White space **within** a directory does no harm. -/
theorem declarations_leadBack_sample :
    IsDeclaration "my lib/ tests/task.kdl" ∧ IsTidy "my lib/ tests/task.kdl" ∧
    (∃ dir, directoryOf "my lib/ tests/task.kdl" = .ok dir ∧
      declarationPath dir = "my lib/ tests/task.kdl") ∧
    ∃ tasks, taskDirectories .default Sample.spacedFiles = .ok tasks ∧
      ∀ path, path ∈ tasks.keys.map declarationPath ↔
        path ∈ Sample.spacedFiles ∧ fileName path = TaskDeclaration.fileName ∧
          ∃ dir, directoryOf path = .ok dir ∧ RepoConfig.default.isIgnored dir = false := by
  have declares : IsDeclaration "my lib/ tests/task.kdl" := by decide +kernel
  have tidy : IsTidy "my lib/ tests/task.kdl" := by decide +kernel
  obtain ⟨back, -, discovered⟩ := declarations_leadBack .default Sample.spacedFiles
  obtain ⟨dir, found, leads, -⟩ := (back _ declares).mpr tidy
  refine ⟨declares, tidy, ⟨dir, found, leads⟩, discovered ?_⟩
  decide +kernel

/-- With white space around it, a directory leads to **another file**, also where there is one that
leads there by right. -/
theorem declaration_mistaken :
    IsDeclaration " lib/task.kdl" ∧ IsDeclaration "lib/task.kdl" ∧
      taskDirectories .default [" lib/task.kdl"] = .ok (.ofList [("lib", ())]) ∧
      declarationPath "lib" = "lib/task.kdl" ∧
      directoryOf " lib/task.kdl" = directoryOf "lib/task.kdl" := by
  decide +kernel

end Selection

end Dispatch
