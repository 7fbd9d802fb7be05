import Dispatch.Proofs.Directory
import Dispatch.Proofs.Selection
import Dispatch.Proofs.Submission.Closure
import Mathlib.Data.List.Induction

/-!
# Selecting the nearest task directories

Of the directories above a given one, the less deep lie above the deeper. So one of them is the
nearest. A change selects the nearest task directory above each directory that has changed, besides
the task directories that have changed themselves and the root.

## Main definitions

* `Selection.Nearest`: the nearest task directory above a directory.
* `Selection.Touched`: what changed directories select.

## Main results

* `Selection.isWithin_iff`: a directory is within another if its path begins with that one's.
* `Selection.nearestAbove?_eq_some`: the task directory that is found is the nearest.
* `Selection.mem_select`: which task directories are selected.
* `Selection.selects_nearest`: selecting is exact, and selects everything where all has changed.
-/

namespace Dispatch

namespace Selection

open Directory

variable {tasks selected changed : Directories} {dir above c : String}

/-- A directory is **within** another if its path begins with the path of that one. -/
theorem isWithin_iff : isWithin dir above = true ↔ path above <+: path dir := by
  have divided : dir = above ∨ above.toList ++ ['/'] <+: dir.toList ↔
      Text.segments above.toList <+: Text.segments dir.toList := by
    rw [Text.segments_prefix_iff, String.toList_inj]
  rw [isWithin, Bool.or_eq_true, Bool.or_eq_true, decide_eq_true_eq, decide_eq_true_eq,
    List.isPrefixOf_iff_prefix, or_assoc, divided]
  by_cases top : above = root
  · simp [top]
  · rw [or_iff_right top, path_of_ne top]
    by_cases top' : dir = root
    · have single : Text.segments root.toList = [rootText] := by decide
      rw [top', path_root, single, List.prefix_nil]
      refine iff_of_false (fun begins => top ?_) (Text.segments_ne_nil _)
      have same : Text.segments above.toList = [rootText] :=
        begins.eq_of_length_le (List.length_pos_of_ne_nil (Text.segments_ne_nil _))
      exact String.toList_inj.mp (Text.segments_injective (same.trans single.symm))
    · rw [path_of_ne top']

/-- The **depth** of a directory is the length of its path. -/
theorem depth_eq (dir : String) : depth dir = (path dir).length := by
  rw [depth, path]
  split <;> rfl

/-! ### The nearest task directory -/

/-- The **nearest** of the task directories that lie above a directory: all others lie above that
one. -/
structure Nearest (tasks : Directories) (above dir : String) : Prop where
  known : above ∈ tasks.keys
  isAbove : Above above dir
  closest : ∀ t ∈ tasks.keys, Above t dir → t = above ∨ Above t above

/-- There is only **one nearest** task directory. -/
theorem Nearest.unique {above' : String} (h : Nearest tasks above dir)
    (h' : Nearest tasks above' dir) : above = above' := by
  rcases h.closest above' h'.known h'.isAbove with same | higher
  · exact same.symm
  · rcases h'.closest above h.known h.isAbove with same | higher'
    · exact same
    · exact absurd higher' higher.asymm

/-- The **deepest** of some directories is one of them, and none lies deeper. -/
theorem deepest?_spec (dirs : List String) :
    match deepest? dirs with
    | some deepest => deepest ∈ dirs ∧ ∀ dir ∈ dirs, depth dir ≤ depth deepest
    | none => dirs = [] := by
  induction dirs using List.reverseRecOn with
  | nil => rfl
  | append_singleton dirs dir ih =>
      have step : deepest? (dirs ++ [dir]) = match deepest? dirs with
          | some b => if depth b ≤ depth dir then some dir else some b
          | none => some dir := by
        rw [deepest?, List.foldl_append]
        rfl
      rw [step]
      cases found : deepest? dirs with
      | none =>
          rw [found] at ih
          simp [show dirs = [] from ih]
      | some deepest =>
          rw [found] at ih
          obtain ⟨mem, most⟩ := ih
          by_cases deeper : depth deepest ≤ depth dir
          · simp only [if_pos deeper, List.forall_mem_append, List.forall_mem_singleton]
            exact ⟨by simp, fun t mem => Nat.le_trans (most t mem) deeper, Nat.le_refl _⟩
          · simp only [if_neg deeper, List.forall_mem_append, List.forall_mem_singleton]
            exact ⟨List.mem_append_left _ mem, most, Nat.le_of_not_le deeper⟩

/-- The task directory that is found above another is **the nearest**. -/
theorem nearestAbove?_eq_some : nearestAbove? tasks dir = some above ↔ Nearest tasks above dir := by
  have candidate (t : String) :
      (t ∈ tasks.keys.filter fun t => t ≠ dir && isWithin dir t) ↔
        t ∈ tasks.keys ∧ Above t dir := by
    rw [List.mem_filter, Bool.and_eq_true, decide_eq_true_eq, isWithin_iff]
    exact and_congr_right fun _ => ⟨fun h => ⟨h.2, h.1⟩, fun h => ⟨h.other, h.begins⟩⟩
  have spec := deepest?_spec (tasks.keys.filter fun t => t ≠ dir && isWithin dir t)
  rw [← nearestAbove?] at spec
  cases found : nearestAbove? tasks dir with
  | none =>
      rw [found] at spec
      refine iff_of_false (by simp) fun h => ?_
      have mem := (candidate above).mpr ⟨h.known, h.isAbove⟩
      rw [show tasks.keys.filter _ = [] from spec] at mem
      cases mem
  | some deepest =>
      rw [found] at spec
      obtain ⟨mem, most⟩ := spec
      obtain ⟨known, isAbove⟩ := (candidate deepest).mp mem
      -- Of two directories above a third one, the less deep lies above the other.
      have nearest : Nearest tasks deepest dir := by
        refine ⟨known, isAbove, fun t known' isAbove' => ?_⟩
        by_cases same : t = deepest
        · exact .inl same
        · have le := most t ((candidate t).mpr ⟨known', isAbove'⟩)
          rw [depth_eq, depth_eq] at le
          exact .inr ⟨List.prefix_of_prefix_length_le isAbove'.begins isAbove.begins le, same⟩
      rw [Option.some.injEq]
      exact ⟨fun same => same ▸ nearest, nearest.unique⟩

/-! ### What is selected -/

/-- What a change of some directories **selects**: of the task directories the root, those that have
changed, and the nearest above each that has changed. -/
def Touched (tasks changed : Directories) (dir : String) : Prop :=
  dir ∈ tasks.keys ∧
    (dir = root ∨ dir ∈ changed.keys ∨ ∃ c ∈ changed.keys, Nearest tasks dir c)

/-- What is selected of a directory that **declares a task**, if it does. -/
theorem mem_addKnown :
    dir ∈ (if tasks.contains c then selected.add c else selected).keys ↔
      dir ∈ selected.keys ∨ dir ∈ tasks.keys ∧ dir = c := by
  split
  · next known =>
    rw [Dictionary.contains_iff] at known
    rw [Directories.add, Dictionary.mem_keys_insert, or_comm]
    refine or_congr_right ⟨?_, And.right⟩
    rintro rfl
    exact ⟨known, rfl⟩
  · next unknown =>
    rw [Dictionary.contains_iff] at unknown
    refine ⟨.inl, fun h => h.resolve_right ?_⟩
    rintro ⟨known, rfl⟩
    exact unknown known

/-- What **one directory** that has changed adds. -/
theorem mem_addSelected : dir ∈ (addSelected tasks selected c).keys ↔
    dir ∈ selected.keys ∨ dir ∈ tasks.keys ∧ dir = c ∨ Nearest tasks dir c := by
  rw [← or_assoc, ← mem_addKnown, ← nearestAbove?_eq_some, addSelected]
  cases nearestAbove? tasks c with
  | none => simp
  | some t =>
      simp only [Directories.add, Dictionary.mem_keys_insert, Option.some.injEq]
      rw [or_comm]
      exact or_congr_right eq_comm

/-- **Which task directories** are selected. -/
theorem mem_select : dir ∈ (select tasks changed).keys ↔ Touched tasks changed dir := by
  have added (dirs : List String) (start : Directories) :
      dir ∈ (dirs.foldl (addSelected tasks) start).keys ↔ dir ∈ start.keys ∨
        ∃ c ∈ dirs, dir ∈ tasks.keys ∧ dir = c ∨ Nearest tasks dir c := by
    induction dirs generalizing start with
    | nil => simp
    | cons c dirs ih =>
        rw [List.foldl_cons, ih, mem_addSelected, or_assoc, List.exists_mem_cons_iff]
  rw [select, added, mem_addKnown, or_iff_right Dictionary.notMem_keys_empty, Touched]
  constructor
  · rintro (⟨known, top⟩ | ⟨c, mem, ⟨known, rfl⟩ | nearest⟩)
    · exact ⟨known, .inl top⟩
    · exact ⟨known, .inr (.inl mem)⟩
    · exact ⟨nearest.known, .inr (.inr ⟨c, mem, nearest⟩)⟩
  · rintro ⟨known, top | mem | ⟨c, mem, nearest⟩⟩
    · exact .inl ⟨known, top⟩
    · exact .inr ⟨dir, mem, .inl ⟨known, rfl⟩⟩
    · exact .inr ⟨c, mem, .inr nearest⟩

/-! ### Where everything has changed -/

/-- Where all task directories have changed, **all are selected**. -/
theorem select_of_subset (all : ∀ dir ∈ tasks.keys, dir ∈ changed.keys) :
    select tasks changed = tasks := by
  refine Directories.ext fun dir => mem_select.trans ⟨And.left, fun known => ?_⟩
  exact ⟨known, .inr (.inl (all dir known))⟩

/-- Where every file counts as changed, there is a file that has no directory in the repository, or
**all task directories** are selected. -/
theorem select_everything (c : RepoConfig) (files : List String) :
    (∃ path ∈ files, ∃ e, directoryOf path = .error e ∧ changedDirectories files = .error e) ∨
      ∃ tasks changed, taskDirectories c files = .ok tasks ∧
        changedDirectories files = .ok changed ∧ select tasks changed = tasks := by
  cases read : changedDirectories files with
  | error e =>
      obtain ⟨path, mem, _, failed⟩ := Except.foldlM_error read
      refine .inl ⟨path, mem, e, ?_, rfl⟩
      cases own : directoryOf path with
      | error e' =>
          rw [own] at failed
          exact congrArg Except.error (Except.error.inj failed)
      | ok dir =>
          rw [own] at failed
          cases failed
  | ok changed =>
      obtain ⟨all, mem⟩ := changedDirectories_ok read
      cases declared : taskDirectories c files with
      | error e =>
          obtain ⟨path, mem, _, failed⟩ := Except.foldlM_error declared
          obtain ⟨dir, own⟩ := all path mem
          rw [addTaskDirectory, own] at failed
          split at failed <;> cases failed
      | ok tasks =>
          refine .inr ⟨tasks, changed, rfl, rfl, select_of_subset fun dir known => ?_⟩
          obtain ⟨path, listed, -, own, -⟩ := (mem_taskDirectories declared).mp known
          exact (mem dir).mpr ⟨path, listed, own⟩

end Selection

namespace Picking

open Selection

/-- A submission that there is nothing to compare with selects **as if to run everything**. -/
theorem selection_uncompared {r : Resolved} {files : List String} {tasks changed : Directories}
    (same : r.base.sha = r.head.sha) (read : changedDirectories files = .ok changed)
    (all : select tasks changed = tasks) : selection r files tasks = pure tasks := by
  rw [selection_eq, changes, if_pos same, pure_bind, read]
  split
  · rfl
  · rw [Operation.ofConfig, pure_bind, all]

end Picking

namespace Sample

/-- The files of a repository with two tasks. -/
def fileList : List String := ["task.kdl", "lib/task.kdl", "lib/src/main.c", "doc/index.md"]

/-- The demand to test a commit that there is nothing to compare with. -/
def uncompared : Resolved := { resolved with base := resolved.head }

end Sample

namespace Selection

/-- **Selecting is exact**: from whatever task directories, whatever changes select what it should.
Where every file counts as changed, either there is one that has no directory in the repository, or
all task directories are selected, and so a submission that there is nothing to compare with selects
the same as one that runs everything. -/
theorem selects_nearest :
    (∀ (tasks changed : Directories) (dir : String),
      dir ∈ (select tasks changed).keys ↔ Touched tasks changed dir) ∧
    ∀ (c : RepoConfig) (files : List String),
      (∃ path ∈ files, ∃ e, directoryOf path = .error e ∧ changedDirectories files = .error e) ∨
      ∃ tasks changed, taskDirectories c files = .ok tasks ∧
        changedDirectories files = .ok changed ∧ select tasks changed = tasks ∧
        ∀ r : Resolved, r.base.sha = r.head.sha →
          Picking.selection r files tasks = pure tasks := by
  refine ⟨fun tasks changed dir => mem_select, fun c files => ?_⟩
  rcases select_everything c files with outside | ⟨tasks, changed, declared, read, all⟩
  · exact .inl outside
  · exact .inr ⟨tasks, changed, declared, read, all, fun r same =>
      Picking.selection_uncompared same read all⟩

theorem selects_nearest_sample :
    Sample.uncompared.base.sha = Sample.uncompared.head.sha ∧
    ∃ tasks, taskDirectories .default Sample.fileList = .ok tasks ∧ tasks.keys = [".", "lib"] ∧
      Picking.selection Sample.uncompared Sample.fileList tasks = pure tasks := by
  rcases selects_nearest.2 .default Sample.fileList with
    ⟨_, -, _, -, outside⟩ | ⟨tasks, -, declared, -, -, selected⟩
  · have read : (changedDirectories Sample.fileList).isOk = true := by decide +kernel
    rw [outside] at read
    cases read
  · have keys : (taskDirectories .default Sample.fileList).map Dictionary.keys =
        .ok [".", "lib"] := by decide +kernel
    rw [declared] at keys
    exact ⟨rfl, tasks, declared, Except.ok.inj keys, selected Sample.uncompared rfl⟩

/-- By whole segments, `lib` does not lie above `library`. -/
example : (select (.ofList [("lib", ()), ("lib/src", ())]) (.ofList [("lib/src/main", ()),
    ("library", ())])).keys = ["lib/src"] := by decide +kernel

end Selection

end Dispatch
