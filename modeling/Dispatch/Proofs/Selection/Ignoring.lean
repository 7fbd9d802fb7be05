import Dispatch.Proofs.Selection.Nearest

/-!
# Ignored directories

Whether a directory is ignored is a comparison of texts, while directories lie above each other by
whole segments. An entry that is the normal form of a directory ignores that directory and what is
below it, but besides these all directories whose names merely begin like that. An entry with a
slash at the end ignores just what is below. In any other spelling, the directory that is named is
not ignored at all.

## Main definitions

* `Selection.Catches`: an entry of the configuration makes a directory ignored.
* `Selection.Namesake`: a directory lies beside another one, or in one that does, and has a name
  that begins with the name of that other one.
* `Selection.HasTask`: a file list has a declaration for a directory.

## Main results

* `Selection.isIgnored_iff`: a directory is ignored if an entry catches it.
* `Selection.catches_iff`: what the normal form of a directory catches.
* `Selection.catches_slash_iff`: what it catches with a slash after it.
* `Selection.taskDirectories_ignore`: which directories are left, and what the entries catch.
* `Selection.ignoring_mistaken`: that these are not the directories that the entries name.
-/

namespace Dispatch

namespace Selection

open Directory

variable {entry named dir : String}

/-- An entry of the ignored directories **catches** a directory: the path of the directory begins
with the segments of the entry, where of the last segment no more than the beginning need be
there. -/
structure Catches (entry dir : String) : Prop where
  nonempty : entry ≠ ""
  begins : ∃ parts last more rest, Text.segments entry.toList = parts ++ [last] ∧
    Text.segments dir.toList = parts ++ (last ++ more) :: rest

/-- A directory is, or lies below, a **namesake** of another: one in the same place, with a name
that begins with the name of that other one and goes on. -/
def Namesake (named dir : String) : Prop :=
  ∃ parts last more rest, path named = parts ++ [last] ∧
    path dir = parts ++ (last ++ more) :: rest ∧ more ≠ []

theorem catches_iff_begins :
    Catches entry dir ↔ entry ≠ "" ∧ entry.toList <+: dir.toList :=
  ⟨fun h => ⟨h.nonempty, Text.prefix_iff_segments.mpr h.begins⟩,
    fun h => ⟨h.1, Text.prefix_iff_segments.mp h.2⟩⟩

/-- A directory is **ignored** if an entry catches it. -/
theorem isIgnored_iff {c : RepoConfig} :
    c.isIgnored dir = true ↔ ∃ entry ∈ c.ignoreDirectories, Catches entry dir := by
  simp [RepoConfig.isIgnored, catches_iff_begins]

/-! ### What an entry catches -/

/-- The root is caught by **no entry but its own**. -/
theorem catches_root : Catches entry root ↔ entry = root := by
  rw [catches_iff_begins]
  constructor
  · rintro ⟨nonempty, begins⟩
    have someChar : entry.toList ≠ [] :=
      fun noChars => nonempty (String.toList_eq_nil_iff.mp noChars)
    exact String.toList_inj.mp (begins.eq_of_length_le (List.length_pos_of_ne_nil someChar))
  · rintro rfl
    exact ⟨by decide +kernel, List.prefix_rfl⟩

/-- The directory that an entry names **is caught** if the entry is its normal form, and only
then. -/
theorem catches_named (nonempty : entry ≠ "") (names : normalize entry = .ok named) :
    Catches entry named ↔ entry = named := by
  rcases normalize_sublist names with rfl | within
  · exact catches_root
  · rw [catches_iff_begins, and_iff_right nonempty]
    refine ⟨fun begins => String.toList_inj.mp ?_, fun same => same ▸ List.prefix_rfl⟩
    exact begins.eq_of_length_le (within.trans (Text.trim_sublist _)).length_le

/-- The normal form of a directory **catches** what is within that directory, and what is within a
namesake of it. -/
theorem catches_iff (names : normalize entry = .ok named) (below : named ≠ root) :
    Catches named dir ↔ isWithin dir named = true ∨ Namesake named dir := by
  have nonempty := normalize_ne_empty names
  by_cases top : dir = root
  · subst top
    rw [catches_root, isWithin_iff, path_root, List.prefix_nil, path_eq_nil]
    refine ⟨.inl, fun h => h.resolve_right ?_⟩
    rintro ⟨parts, last, more, rest, -, rootPath, -⟩
    rw [path_root] at rootPath
    exact List.append_ne_nil_of_right_ne_nil _ (List.cons_ne_nil _ _) rootPath.symm
  · rw [isWithin_iff, Namesake, path_of_ne below, path_of_ne top]
    constructor
    · rintro ⟨-, parts, last, more, rest, own, whole⟩
      by_cases ends : more = []
      · exact .inl ⟨rest, by simp [own, whole, ends]⟩
      · exact .inr ⟨parts, last, more, rest, own, whole, ends⟩
    · rintro (⟨rest, whole⟩ | ⟨parts, last, more, rest, own, whole, -⟩)
      · obtain ⟨parts, last, own⟩ :=
          (Text.segments named.toList).eq_nil_or_concat.resolve_left (Text.segments_ne_nil _)
        rw [List.concat_eq_append] at own
        exact ⟨nonempty, parts, last, [], rest, own, by simp [← whole, own]⟩
      · exact ⟨nonempty, parts, last, more, rest, own, whole⟩

/-- With a slash after it, the normal form of a directory **catches** what is below. -/
theorem catches_slash_iff (below : named ≠ root) :
    Catches (named ++ "/") dir ↔ Above named dir := by
  have nonempty : named ++ "/" ≠ "" := by simp
  have deeper : Above named dir ↔ named.toList ++ ['/'] <+: dir.toList := by
    have within :
        isWithin dir named = true ↔ dir = named ∨ named.toList ++ ['/'] <+: dir.toList := by
      simp [isWithin, below]
    constructor
    · intro h
      exact (within.mp (isWithin_iff.mpr h.begins)).resolve_left fun same => h.other same.symm
    · intro begins
      refine ⟨isWithin_iff.mp (within.mpr (.inr begins)), ?_⟩
      rintro rfl
      have longer := begins.length_le
      rw [List.length_append, List.length_singleton] at longer
      omega
  rw [catches_iff_begins, and_iff_right nonempty, deeper, String.toList_append]
  rfl

/-! ### The directories that are left -/

/-- Among the files there is one that declares a task for the directory. -/
def HasTask (files : List String) (dir : String) : Prop :=
  ∃ path ∈ files, fileName path = TaskDeclaration.fileName ∧ directoryOf path = .ok dir

theorem declaresTask_iff {c : RepoConfig} {files : List String} : DeclaresTask c files dir ↔
    HasTask files dir ∧ ∀ entry ∈ c.ignoreDirectories, ¬ Catches entry dir := by
  have kept : c.isIgnored dir = false ↔ ∀ entry ∈ c.ignoreDirectories, ¬ Catches entry dir := by
    rw [← Bool.not_eq_true, isIgnored_iff]
    simp
  rw [DeclaresTask, HasTask, ← kept]
  constructor
  · rintro ⟨path, mem, name, own, spared⟩
    exact ⟨⟨path, mem, name, own⟩, spared⟩
  · rintro ⟨⟨path, mem, name, own⟩, spared⟩
    exact ⟨path, mem, name, own, spared⟩

/-- **The directories that are left** after those are ignored that an entry catches. Where all
entries are normal forms of directories, not the root, these are the ones that neither are within
such a directory nor within a namesake of it. What an entry names is caught only by its normal form,
and with a slash after that only what lies below. -/
theorem taskDirectories_ignore {c : RepoConfig} {files : List String}
    (placed : ∀ path ∈ files, fileName path = TaskDeclaration.fileName →
      ∃ dir, directoryOf path = .ok dir) :
    (∃ tasks, taskDirectories c files = .ok tasks ∧
      (∀ dir, dir ∈ tasks.keys ↔
        HasTask files dir ∧ ∀ entry ∈ c.ignoreDirectories, ¬ Catches entry dir) ∧
      ((∀ entry ∈ c.ignoreDirectories, normalize entry = .ok entry ∧ entry ≠ root) →
        ∀ dir, dir ∈ tasks.keys ↔ HasTask files dir ∧ ∀ named ∈ c.ignoreDirectories,
          isWithin dir named = false ∧ ¬ Namesake named dir)) ∧
    ∀ entry named, entry ≠ "" → normalize entry = .ok named →
      (Catches entry named ↔ entry = named) ∧
      (named ≠ root → ∀ dir, Catches (named ++ "/") dir ↔ Above named dir) := by
  obtain ⟨tasks, found⟩ := exists_taskDirectories (c := c) placed
  have left (dir : String) : dir ∈ tasks.keys ↔
      HasTask files dir ∧ ∀ entry ∈ c.ignoreDirectories, ¬ Catches entry dir :=
    (mem_taskDirectories found).trans declaresTask_iff
  refine ⟨⟨tasks, found, left, fun normal dir => (left dir).trans ?_⟩,
    fun entry named nonempty names =>
      ⟨catches_named nonempty names, fun below dir => catches_slash_iff below⟩⟩
  refine and_congr_right fun _ => forall₂_congr fun named mem => ?_
  obtain ⟨names, below⟩ := normal named mem
  rw [catches_iff names below, not_or, Bool.not_eq_true]

end Selection

namespace Sample

/-- A configuration that is about ignored directories only. -/
def ignoring (entries : List String) : RepoConfig :=
  { RepoConfig.default with ignoreDirectories := entries }

/-- The files of a repository with code of others in it. -/
def vendorFiles : List String :=
  ["task.kdl", "vendor/lib/task.kdl", "vendored/task.kdl", "src/vendor/task.kdl"]

end Sample

namespace Selection

/-- A directory is not ignored for the name of **another one further down**. -/
theorem taskDirectories_ignore_sample :
    ∃ tasks, taskDirectories (Sample.ignoring ["vendor"]) Sample.vendorFiles = .ok tasks ∧
      tasks.keys = [".", "src/vendor"] ∧
      ∀ dir, dir ∈ tasks.keys ↔ HasTask Sample.vendorFiles dir ∧
        ∀ named ∈ ["vendor"], isWithin dir named = false ∧ ¬ Namesake named dir := by
  have placed : ∀ path ∈ Sample.vendorFiles, fileName path = TaskDeclaration.fileName →
      ∃ dir, directoryOf path = .ok dir := by
    have read : ∀ path ∈ Sample.vendorFiles, (directoryOf path).isOk = true := by decide +kernel
    intro path mem _
    have read := read path mem
    cases own : directoryOf path with
    | ok dir => exact ⟨dir, rfl⟩
    | error e =>
        rw [own] at read
        cases read
  obtain ⟨⟨tasks, found, -, normal⟩, -⟩ :=
    taskDirectories_ignore (c := Sample.ignoring ["vendor"]) placed
  have keys : (taskDirectories (Sample.ignoring ["vendor"]) Sample.vendorFiles).map
      Dictionary.keys = .ok [".", "src/vendor"] := by decide +kernel
  rw [found] at keys
  exact ⟨tasks, found, Except.ok.inj keys, normal (by decide +kernel)⟩

/-- An ignored directory takes **one beside it** along, whose name merely begins like that, and in
another spelling it is **not ignored**. -/
theorem ignoring_mistaken :
    (Directory.normalize "vendor" = .ok "vendor" ∧ isWithin "vendored" "vendor" = false ∧
      taskDirectories (Sample.ignoring ["vendor"]) ["vendored/task.kdl"] = .ok .empty) ∧
    (Directory.normalize "./vendor" = .ok "vendor" ∧ isWithin "vendor/lib" "vendor" = true ∧
      taskDirectories (Sample.ignoring ["./vendor"]) ["vendor/lib/task.kdl"] =
        .ok (.ofList [("vendor/lib", ())])) ∧
    Directory.normalize "vendor/" = .ok "vendor" ∧ isWithin "vendor" "vendor" = true ∧
      taskDirectories (Sample.ignoring ["vendor/"]) ["vendor/task.kdl"] =
        .ok (.ofList [("vendor", ())]) := by
  decide +kernel

end Selection

end Dispatch
