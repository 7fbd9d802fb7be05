import Dispatch.Proofs.Interruption
import Dispatch.Proofs.Selection.Nearest
import Dispatch.Proofs.Submission.Creation

/-!
# The names of runs

On the code host, a run goes by the directory of its task, a colon, and the name that it has there.
Two runs of one submission have the same name only if one of the directories is the root and the
other one is called like the label of the root, or if a colon in the name of a directory can as well
be read as the one before the name of a run.

## Main definitions

* `Run.label`: what stands for a directory in the names of its runs.
* `DeclaredRun.Clashes`: two declared runs are named the same.

## Main results

* `Run.displayName_eq_iff`: when two names are equal.
* `Picking.names_nodup_iff`: when the declared runs have different names.
* `Intake.submit_names`: when the runs that a submission creates have different names.
* `Intake.names_mistaken`: that they need not have.
-/

namespace Dispatch

namespace Run

variable {dir dir' name name' : String}

/-- What stands for a directory **in the names** of its runs. -/
def label (dir : String) : String := if dir.isEmpty || dir = "." then rootLabel else dir

theorem displayName_eq (dir name : String) : displayName dir name = label dir ++ ":" ++ name := rfl

theorem label_root : label Directory.root = rootLabel := by decide +kernel

theorem label_of_ne (nonempty : dir ≠ "") (below : dir ≠ Directory.root) : label dir = dir := by
  rw [label, if_neg]
  simpa [nonempty] using show dir ≠ "." from below

/-- Two directories have the same label only if one of them is **called like the label of the
root**. -/
theorem label_eq_iff (nonempty : dir ≠ "") (nonempty' : dir' ≠ "") : label dir = label dir' ↔
    dir = dir' ∨ dir = Directory.root ∧ dir' = rootLabel ∨
      dir' = Directory.root ∧ dir = rootLabel := by
  by_cases top : dir = Directory.root <;> by_cases top' : dir' = Directory.root
  · simp [top, top']
  · rw [top, label_root, label_of_ne nonempty' top']
    constructor
    · rintro rfl
      exact .inr (.inl ⟨rfl, rfl⟩)
    · rintro (rfl | ⟨-, rfl⟩ | ⟨impossible, -⟩)
      · exact absurd rfl top'
      · rfl
      · exact absurd impossible top'
  · rw [top', label_root, label_of_ne nonempty top]
    constructor
    · rintro rfl
      exact .inr (.inr ⟨rfl, rfl⟩)
    · rintro (rfl | ⟨impossible, -⟩ | ⟨-, rfl⟩)
      · exact absurd rfl top
      · exact absurd impossible top
      · rfl
  · simp [label_of_ne nonempty top, label_of_ne nonempty' top', top, top']

/-- One name can be **read as the other**, with part of the directory as part of the run. -/
theorem displayName_eq_of_split {x : String} (longer : label dir = label dir' ++ ":" ++ x)
    (shorter : name' = x ++ ":" ++ name) : displayName dir name = displayName dir' name' := by
  simp only [displayName_eq, longer, shorter, String.append_assoc]

/-- Where the label of one run goes on after that of the other, what comes there is nothing, or a
colon and what the name of the other run begins with. -/
theorem split_of_longer {more : List Char}
    (longer : (label dir).toList = (label dir').toList ++ more)
    (shorter : ':' :: name'.toList = more ++ ':' :: name.toList) :
    label dir = label dir' ∧ name = name' ∨
      ∃ x, label dir = label dir' ++ ":" ++ x ∧ name' = x ++ ":" ++ name := by
  cases more with
  | nil =>
      rw [List.append_nil] at longer
      rw [List.nil_append, List.cons.injEq] at shorter
      exact .inl ⟨String.toList_inj.mp longer, String.toList_inj.mp shorter.2.symm⟩
  | cons c x =>
      rw [List.cons_append, List.cons.injEq] at shorter
      obtain ⟨rfl, shorter⟩ := shorter
      refine .inr ⟨String.ofList x, String.toList_inj.mp ?_, String.toList_inj.mp ?_⟩
      · simp [longer]
      · simp [shorter]

/-- Two names are **equal** if label and name are, or if one label goes on after the other with a
colon, where the name of the other run has what comes after that. -/
theorem displayName_eq_iff : displayName dir name = displayName dir' name' ↔
    label dir = label dir' ∧ name = name' ∨
      (∃ x, label dir = label dir' ++ ":" ++ x ∧ name' = x ++ ":" ++ name) ∨
      ∃ x, label dir' = label dir ++ ":" ++ x ∧ name = x ++ ":" ++ name' := by
  constructor
  · intro same
    have chars : (label dir).toList ++ ':' :: name.toList =
        (label dir').toList ++ ':' :: name'.toList := by
      simpa [displayName_eq] using congrArg String.toList same
    rcases List.append_eq_append_iff.mp chars with ⟨_, longer, shorter⟩ | ⟨_, longer, shorter⟩
    · rcases split_of_longer longer shorter with ⟨sameLabel, sameName⟩ | split
      · exact .inl ⟨sameLabel.symm, sameName.symm⟩
      · exact .inr (.inr split)
    · exact (split_of_longer longer shorter).imp_right .inl
  · rintro (⟨same, rfl⟩ | ⟨x, longer, shorter⟩ | ⟨x, longer, shorter⟩)
    · rw [displayName_eq, displayName_eq, same]
    · exact displayName_eq_of_split longer shorter
    · exact (displayName_eq_of_split longer shorter).symm

end Run

/-! ### Declared runs -/

namespace DeclaredRun

variable {d d' : DeclaredRun}

/-- The name of the run that is created for a declared one. -/
def displayName (d : DeclaredRun) : String := Run.displayName d.dir d.name

/-- Two declared runs **clash**: different as they are, they have the same name on the code host. -/
inductive Clashes (d d' : DeclaredRun) : Prop
  /-- The other directory is called like the label of the root. -/
  | root (top : d.dir = Directory.root) (labeled : d'.dir = Run.rootLabel) (same : d.name = d'.name)
  /-- The other directory goes on with a colon, and so does the name of this run. -/
  | colon (x : String) (longer : Run.label d'.dir = Run.label d.dir ++ ":" ++ x)
      (shorter : d.name = x ++ ":" ++ d'.name)

theorem Clashes.displayName_eq (h : d.Clashes d') : d.displayName = d'.displayName := by
  cases h with
  | root top labeled same =>
      rw [displayName, displayName, Run.displayName_eq, Run.displayName_eq, top, labeled, same,
        Run.label_root, Run.label_of_ne (by decide +kernel) (by decide +kernel)]
  | colon x longer shorter => exact (Run.displayName_eq_of_split longer shorter).symm

theorem Clashes.dir_ne (h : d.Clashes d') : d.dir ≠ d'.dir := by
  intro same
  cases h with
  | root top labeled _ =>
      rw [top, labeled] at same
      exact absurd same (by decide +kernel)
  | colon x longer _ =>
      rw [same] at longer
      have length := congrArg String.length longer
      simp only [String.length_append] at length
      have colon : ":".length = 1 := rfl
      omega

/-- Of runs in directories with a name, only **clashing** ones have the same name there. -/
theorem clashes_of_displayName_eq (nonempty : d.dir ≠ "") (nonempty' : d'.dir ≠ "")
    (same : d.displayName = d'.displayName) :
    (d.dir = d'.dir ∧ d.name = d'.name) ∨ d.Clashes d' ∨ d'.Clashes d := by
  rcases Run.displayName_eq_iff.mp same with
    ⟨sameLabel, sameName⟩ | ⟨x, longer, shorter⟩ | ⟨x, longer, shorter⟩
  · rcases (Run.label_eq_iff nonempty nonempty').mp sameLabel with
      sameDir | ⟨top, labeled⟩ | ⟨top, labeled⟩
    · exact .inl ⟨sameDir, sameName⟩
    · exact .inr (.inl (.root top labeled sameName))
    · exact .inr (.inr (.root top labeled sameName.symm))
  · exact .inr (.inr (.colon x longer shorter))
  · exact .inr (.inl (.colon x longer shorter))

end DeclaredRun

namespace Picking

open DeclaredRun

theorem dir_mem_keys {loaded : Dictionary TaskSettings} {d : DeclaredRun}
    (known : d ∈ declaredRuns loaded) : d.dir ∈ loaded.keys := by
  obtain ⟨entry, mem, own⟩ := List.mem_flatMap.mp known
  obtain ⟨_, -, rfl⟩ := List.mem_map.mp own
  exact List.mem_map_of_mem mem

/-- **Different** declared runs differ in their directories or names. -/
theorem declaredRuns_nodup (loaded : Dictionary TaskSettings) :
    ((declaredRuns loaded).map fun d => (d.dir, d.name)).Nodup := by
  refine List.pairwise_map.mpr ((declaredRuns_ordered loaded).imp fun {d d'} before same => ?_)
  obtain ⟨sameDir, sameName⟩ := Prod.mk.inj same
  rcases before with before | ⟨-, before⟩
  · rw [sameDir] at before
    exact List.lt_irrefl _ before
  · rw [sameName] at before
    exact List.lt_irrefl _ before

/-- The declared runs have **different names** if none of them clash, and only then. -/
theorem names_nodup_iff {loaded : Dictionary TaskSettings} (named : ∀ dir ∈ loaded.keys, dir ≠ "") :
    ((declaredRuns loaded).map displayName).Nodup ↔
      ∀ d ∈ declaredRuns loaded, ∀ d' ∈ declaredRuns loaded, ¬ d.Clashes d' := by
  have unique := declaredRuns_nodup loaded
  rw [List.nodup_map_iff_inj_on unique.of_map]
  constructor
  · intro distinct d known d' known' clash
    exact clash.dir_ne (congrArg dir (distinct d known d' known' clash.displayName_eq))
  · intro apart d known d' known' same
    rcases clashes_of_displayName_eq (named _ (dir_mem_keys known)) (named _ (dir_mem_keys known'))
      same with ⟨sameDir, sameName⟩ | clash | clash
    · exact List.inj_on_of_nodup_map unique known known' (Prod.ext sameDir sameName)
    · exact absurd clash (apart d known d' known')
    · exact absurd clash (apart d' known' d known)

/-! ### The runs of a submission -/

variable {r : Resolved} {tr : Trace} {picked : Picked} {selected : List String}
  {loaded : Dictionary TaskSettings} {created : List (Task × List Run)}

/-- Selected directories **have names**. -/
theorem Selects.named (h : Selects r tr selected) : ∀ dir ∈ selected, dir ≠ "" := by
  obtain ⟨files, tasks, -, declares, chosen⟩ := h
  have tasksNamed : ∀ dir ∈ tasks.keys, dir ≠ "" := fun dir mem => by
    obtain ⟨path, -, -, own, -⟩ := (declares dir).mp mem
    exact Selection.directoryOf_ne_empty own
  rcases chosen with ⟨-, rfl⟩ | ⟨-, changed, dirs, -, -, rfl⟩
  · exact tasksNamed
  · exact fun dir mem => tasksNamed dir (Selection.mem_select.mp mem).1

/-- All directories that have been loaded **have names**. -/
theorem Picks.dirs_named (h : Picks r tr picked selected loaded created) :
    ∀ dir ∈ loaded.keys, dir ≠ "" := by
  intro dir mem
  cases (h.needed dir).mp mem with
  | start chosen => exact h.selects.named dir chosen
  | needs _ depends =>
      obtain ⟨settings, found, mem⟩ := depends
      obtain ⟨bytes, -, parsed⟩ := (h.declared _ settings).mp found
      obtain ⟨spelling, normal⟩ := TaskDeclaration.parse_normal parsed dir mem
      exact Directory.normalize_ne_empty normal

end Picking

namespace Intake

open Picking Operation

variable {s s' : Store} {tr : Trace} {limit : Nat} {request : SubmissionRequest}

/-- **The names of runs.** A successful submission adds one run for each run that is declared in the
directories that have been loaded for it, named after the directory and the declared run. The names
are different if no two of the declared runs clash, and only then. -/
theorem submit_names {result : Submitted} (reachable : s.ReachableBy fun _ => True)
    (h : (submit limit request).Ends s tr (.ok result) s') :
    ∃ r s₁ tr₁ tr₂ loaded rs,
      (Resolution.resolve request).Ends s tr₁ (.ok r) s₁ ∧ tr = tr₁ ++ tr₂ ∧
      (∀ d settings, Dictionary.get? loaded d = some settings ↔ Declares r tr₂ d settings) ∧
      (∃ old, s'.runs = old ++ rs ∧ old.map (·.id) = s.runs.map (·.id)) ∧
      List.Forall₂ (fun d run => d.CreatedAs s'.tasks run) (declaredRuns loaded) rs ∧
      ((rs.map (·.name)).Nodup ↔
        ∀ d ∈ declaredRuns loaded, ∀ d' ∈ declaredRuns loaded, ¬ d.Clashes d') := by
  have whole := reachable.integrity
  rcases submit_ends h with
    ⟨cause, -, impossible⟩ | ⟨r, s₁, tr₁, tr₂, tr₃, resolved, started, rfl, silent⟩
  · cases impossible
  · obtain ⟨now, picked, selected, loaded, created, picks, rfl⟩ :=
      start_ok started (resolved.integrity whole)
    have before : s₁.runs.map (·.id) = s.runs.map (·.id) := by
      rw [Program.Ends.runs_map_id resolved whole,
        Program.Ends.createsNone resolved (Resolution.calls_resolve request)]
      exact List.append_nil _
    have names : (declaredRuns loaded).map DeclaredRun.displayName = picked.runs.map (·.name) := by
      have same := picks.createdRuns.imp fun d run made => made.name.symm
      rw [← List.forall₂_eq_eq_eq, List.forall₂_map_left_iff, List.forall₂_map_right_iff]
      exact same
    refine ⟨r, s₁, tr₁, tr₂ ++ tr₃, loaded, picked.runs, resolved, rfl, fun d settings => ?_,
      ⟨s₁.runs, rfl, before⟩, picks.createdRuns.imp fun d run made => ?_, ?_⟩
    · rw [picks.declared, (declares_append fun dir reply => silent _ _ _).1]
    · obtain ⟨t, mem, path, own⟩ := made.task
      exact { made with task := ⟨t, List.mem_append_right _ mem, path, own⟩ }
    · rw [← names]
      exact names_nodup_iff picks.dirs_named

end Intake

namespace Sample

/-- A task with one run that has the given name. -/
def declaring (run : String) : String :=
  "mountpoint \"/src\"\ndefault-image \"rust:1\"\nrun \"" ++ run ++
    "\" \x7b\n  command \"cargo\"\n\x7d\n"

/-- A session with a repository whose files declare tasks with one run each. -/
def naming (tasks : List (String × String)) : Session :=
  { session with host := { host with
      files := tasks.map fun (path, run) => ("*", "*", path, Text.encodeUtf8 (declaring run)) } }

/-- The demand to run all tasks of a commit. -/
def everything : SubmissionRequest := { request first with all := true, manual := true }

end Sample

namespace Intake

open Picking

/-- In the root and in another directory, runs **may be called the same**. -/
theorem submit_names_sample : ∃ (loaded : Dictionary TaskSettings) (rs : List Run) (s' : Store),
    s'.runs = rs ∧ rs.map (·.name) = ["*root*:test", "lib:test"] ∧
      List.Forall₂ (fun d run => d.CreatedAs s'.tasks run) (declaredRuns loaded) rs ∧
      ∀ d ∈ declaredRuns loaded, ∀ d' ∈ declaredRuns loaded, ¬ d.Clashes d' := by
  obtain ⟨result, σ, submitted, names⟩ := Session.exists_of_succeeds
    (submit 5 Sample.everything) (Sample.naming [("task.kdl", "test"), ("lib/task.kdl", "test")])
    (fun _ σ => σ.store.runs.map (·.name) = ["*root*:test", "lib:test"]) (by decide +kernel)
  obtain ⟨tr, ends, -⟩ := Session.perform_ends submitted
  obtain ⟨r, s₁, tr₁, tr₂, loaded, rs, -, -, -, ⟨old, runs, noneBefore⟩, created, different⟩ :=
    submit_names (Sample.reachable _) ends
  obtain rfl := List.map_eq_nil_iff.mp noneBefore
  rw [List.nil_append] at runs
  have names := of_decide_eq_true names
  rw [runs] at names
  refine ⟨loaded, rs, σ.store, runs, names, created, different.mp ?_⟩
  rw [names]
  decide +kernel

/-- The root and a directory **called like its label** give their runs the same name, and so do two
directories where what comes after a colon in one may as well belong to the run in the other. -/
theorem names_mistaken :
    (∃ result σ, Session.perform (submit 5 Sample.everything)
        (Sample.naming [("task.kdl", "test"), ("*root*/task.kdl", "test")]) =
          some (.ok result, σ) ∧
      σ.store.tasks.map (·.path) = ["*root*", "."] ∧
      σ.store.runs.map (·.name) = ["*root*:test", "*root*:test"]) ∧
    ∃ result σ, Session.perform (submit 5 Sample.everything)
        (Sample.naming [("a/task.kdl", "b:c"), ("a:b/task.kdl", "c")]) = some (.ok result, σ) ∧
      σ.store.tasks.map (·.path) = ["a", "a:b"] ∧
      σ.store.runs.map (·.name) = ["a:b:c", "a:b:c"] := by
  obtain ⟨result, σ, submitted, facts⟩ := Session.exists_of_succeeds (submit 5 Sample.everything)
    (Sample.naming [("task.kdl", "test"), ("*root*/task.kdl", "test")])
    (fun _ σ => σ.store.tasks.map (·.path) = ["*root*", "."] &&
      σ.store.runs.map (·.name) = ["*root*:test", "*root*:test"]) (by decide +kernel)
  obtain ⟨result', σ', submitted', facts'⟩ := Session.exists_of_succeeds
    (submit 5 Sample.everything) (Sample.naming [("a/task.kdl", "b:c"), ("a:b/task.kdl", "c")])
    (fun _ σ => σ.store.tasks.map (·.path) = ["a", "a:b"] &&
      σ.store.runs.map (·.name) = ["a:b:c", "a:b:c"]) (by decide +kernel)
  simp only [Bool.and_eq_true, decide_eq_true_eq] at facts facts'
  exact ⟨⟨result, σ, submitted, facts⟩, result', σ', submitted', facts'⟩

end Intake

end Dispatch
