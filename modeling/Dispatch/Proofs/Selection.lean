import Dispatch.Proofs.Declaration
import Dispatch.Proofs.Dictionary
import Dispatch.Proofs.Directory
import Dispatch.Selection.Directories

/-!
# The directories of a file list

## Main definitions

* `Selection.DeclaresTask`: a file list has a declaration for a directory that is not ignored.

## Main results

* `Selection.mem_taskDirectories`: these are the task directories.
* `Selection.exists_taskDirectories`: they are found if each declaration has a directory.
* `Selection.changedDirectories_ok`: the directories of changed files.
-/

namespace Dispatch

/-- Sets of directories are equal if they have the **same members**. -/
theorem Directories.ext {dirs dirs' : Directories}
    (same : ∀ dir, dir ∈ dirs.keys ↔ dir ∈ dirs'.keys) : dirs = dirs' := by
  refine Dictionary.ext_get? fun dir => Option.ext fun _ => ?_
  have same := same dir
  rw [Dictionary.mem_keys, Dictionary.mem_keys] at same
  exact ⟨fun h => (same.mp ⟨_, h⟩).choose_spec, fun h => (same.mpr ⟨_, h⟩).choose_spec⟩

namespace Selection

/-- A directory that is found for a file **has a name**. -/
theorem directoryOf_ne_empty {path dir : String} (found : directoryOf path = .ok dir) :
    dir ≠ "" := by
  rw [directoryOf] at found
  split at found
  · obtain rfl := Except.ok.inj found
    decide +kernel
  · exact Directory.normalize_ne_empty found

/-- Among the files there is one that **declares the task** of the directory, which is not
ignored. -/
def DeclaresTask (c : RepoConfig) (files : List String) (dir : String) : Prop :=
  ∃ path ∈ files, fileName path = TaskDeclaration.fileName ∧ directoryOf path = .ok dir ∧
    c.isIgnored dir = false

theorem addTaskDirectory_ok {c : RepoConfig} {dirs dirs' : Directories} {path : String}
    (h : addTaskDirectory c dirs path = .ok dirs') (dir : String) :
    dir ∈ dirs'.keys ↔ dir ∈ dirs.keys ∨ DeclaresTask c [path] dir := by
  simp only [DeclaresTask, List.mem_singleton, exists_eq_left]
  rw [addTaskDirectory] at h
  split at h
  · next declares =>
    obtain ⟨own, normal, h⟩ := Except.bind_eq_ok.mp h
    obtain rfl := Except.ok.inj h
    rw [normal, Except.ok.injEq]
    by_cases ignored : c.isIgnored own = true
    · rw [if_pos ignored]
      refine ⟨.inl, fun h => h.resolve_right ?_⟩
      rintro ⟨-, rfl, kept⟩
      rw [ignored] at kept
      cases kept
    · rw [if_neg ignored, Directories.add, Dictionary.mem_keys_insert]
      have kept := Bool.eq_false_iff.mpr ignored
      constructor
      · rintro (rfl | known)
        · exact .inr ⟨declares, rfl, kept⟩
        · exact .inl known
      · rintro (known | ⟨-, rfl, -⟩)
        · exact .inr known
        · exact .inl rfl
  · next other =>
    obtain rfl := Except.ok.inj h
    exact ⟨.inl, fun h => h.resolve_right fun h => other h.1⟩

/-- The **task directories** are those that a file declares the task of, unless ignored. -/
theorem mem_taskDirectories {c : RepoConfig} {files : List String} {dirs : Directories}
    (h : taskDirectories c files = .ok dirs) {dir : String} :
    dir ∈ dirs.keys ↔ DeclaresTask c files dir := by
  have added (files : List String) : ∀ start : Directories,
      files.foldlM (addTaskDirectory c) start = .ok dirs →
        (dir ∈ dirs.keys ↔ dir ∈ start.keys ∨ DeclaresTask c files dir) := by
    induction files with
    | nil =>
        intro start h
        obtain rfl := Except.ok.inj h
        simp [DeclaresTask]
    | cons path files ih =>
        intro start h
        rw [List.foldlM_cons] at h
        obtain ⟨next, first, later⟩ := Except.bind_eq_ok.mp h
        rw [ih next later, addTaskDirectory_ok first, or_assoc]
        simp [DeclaresTask]
  rw [added files .empty h]
  simp

/-- Task directories **are found** if every file that declares a task has a directory. -/
theorem exists_taskDirectories {c : RepoConfig} {files : List String}
    (placed : ∀ path ∈ files, fileName path = TaskDeclaration.fileName →
      ∃ dir, directoryOf path = .ok dir) : ∃ dirs, taskDirectories c files = .ok dirs := by
  refine Except.exists_foldlM (fun path mem dirs => ?_) _
  rw [addTaskDirectory]
  split
  · next declares =>
    obtain ⟨dir, found⟩ := placed path mem declares
    rw [found]
    exact ⟨_, rfl⟩
  · exact ⟨_, rfl⟩

/-- The directories of changed files are those **of each file**. -/
theorem changedDirectories_ok {files : List String} {changed : Directories}
    (h : changedDirectories files = .ok changed) :
    (∀ path ∈ files, ∃ dir, directoryOf path = .ok dir) ∧
      ∀ dir, dir ∈ changed.keys ↔ ∃ path ∈ files, directoryOf path = .ok dir := by
  have added (files : List String) : ∀ start : Directories,
      files.foldlM (fun dirs path => do return dirs.add (← directoryOf path)) start = .ok changed →
        (∀ path ∈ files, ∃ dir, directoryOf path = .ok dir) ∧ ∀ dir, dir ∈ changed.keys ↔
          dir ∈ start.keys ∨ ∃ path ∈ files, directoryOf path = .ok dir := by
    induction files with
    | nil =>
        intro start h
        obtain rfl := Except.ok.inj h
        simp
    | cons path files ih =>
        intro start h
        rw [List.foldlM_cons] at h
        obtain ⟨next, first, later⟩ := Except.bind_eq_ok.mp h
        obtain ⟨own, normal, first⟩ := Except.bind_eq_ok.mp first
        obtain rfl := Except.ok.inj first
        obtain ⟨all, mem⟩ := ih _ later
        refine ⟨List.forall_mem_cons.mpr ⟨⟨own, normal⟩, all⟩, fun dir => ?_⟩
        rw [mem, Directories.add, Dictionary.mem_keys_insert, List.exists_mem_cons_iff, normal,
          Except.ok.injEq]
        grind
  simpa using added files .empty h

end Selection

end Dispatch
