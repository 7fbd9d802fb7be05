import Dispatch.Proofs.Declaration
import Dispatch.Proofs.Dictionary
import Mathlib.Control.Monad.Basic

/-!
# What counts first

What a declaration leaves open is filled in from the defaults of the task, from the configuration of
the repository, and from what is fixed. Of the values for a field the first that is given counts,
unless the repository overrides it. Filling the gaps leaves no gap that could be filled, so nothing
changes if it is done once more.

## Main definitions

* `firstSet`: the first value that is given.
* `RunSettings.Completes`, `TaskSettings.Completes`: settings with the gaps filled.
* `TaskSettings.Usable`: nothing that is needed is missing, and nothing is asked for that is not
  granted.

## Main results

* `TaskSettings.complete_completes`: what counts first.
* `TaskSettings.complete_complete`: filling the gaps once more changes nothing.
* `TaskDeclaration.parse_completes`: what is read has its gaps filled for good, and is usable.
-/

namespace Dispatch

/-! ### The first value that is given -/

section First

variable {α : Type} [DecidableEq α] {unset : α}

/-- The **first** value that is given, if `unset` stands for one that is not. -/
def firstSet (unset : α) (values : List α) : α := (values.find? (· ≠ unset)).getD unset

@[simp] theorem firstSet_nil : firstSet unset [] = unset := rfl

theorem firstSet_cons (value : α) (values : List α) :
    firstSet unset (value :: values) = if value = unset then firstSet unset values else value := by
  by_cases given : value = unset <;> simp [firstSet, given]

@[simp] theorem firstSet_singleton (value : α) : firstSet unset [value] = value := by
  rw [firstSet_cons, firstSet_nil]
  split
  · next missing => exact missing.symm
  · rfl

/-- The first value is missing if **all** are. -/
@[simp] theorem firstSet_eq_unset {values : List α} :
    firstSet unset values = unset ↔ ∀ value ∈ values, value = unset := by
  induction values with
  | nil => simp
  | cons value values ih =>
      rw [firstSet_cons, List.forall_mem_cons, ← ih]
      split
      · next missing => simp [missing]
      · next given => simp [given]

/-- Several values can stand at the **beginning** as the first of them. -/
theorem firstSet_firstSet_cons (values rest : List α) :
    firstSet unset (firstSet unset values :: rest) = firstSet unset (values ++ rest) := by
  induction values with
  | nil => simp [firstSet_cons]
  | cons value values ih =>
      rw [List.cons_append, firstSet_cons value, firstSet_cons value, ← ih]
      split
      · rfl
      · next given => rw [firstSet_cons, if_neg given]

/-- Several values can stand at the **end** as the first of them. -/
theorem firstSet_pair_firstSet (value : α) (values : List α) :
    firstSet unset [value, firstSet unset values] = firstSet unset (value :: values) := by
  rw [firstSet_cons, firstSet_singleton, firstSet_cons value values]

/-- Where a value is missing only if all others are, the others **do not matter** any more. -/
theorem firstSet_stable {values rest : List α}
    (missing : firstSet unset values = unset → firstSet unset rest = unset) :
    firstSet unset (firstSet unset values :: rest) = firstSet unset values := by
  rw [firstSet_cons]
  split
  · next none => rw [missing none, none]
  · rfl

end First

theorem firstGiven_eq (texts : List String) (last : String) :
    firstGiven texts last = firstSet "" (texts ++ [last]) := by
  induction texts with
  | nil => simp [firstGiven, firstSet_cons]
  | cons text texts ih => simp [firstGiven, firstSet_cons, ih]

theorem Resources.orElse_eq (r other : Resources) :
    r.orElse other = firstSet Resources.none [r, other] := by
  rw [firstSet_cons, firstSet_cons, firstSet_nil, orElse, isUnset]
  by_cases unset : r = .none
  · by_cases nothing : other = .none <;> simp [unset, nothing]
  · simp [unset]

attribute [ext] RunSettings TaskSettings

/-! ### Metadata -/

/-- Going through the metadata of a repository, **each key** is met once. -/
theorem RunSettings.get?_foldl_metadata (c : RepoConfig) (key : String)
    {l : List (String × String)} (distinct : (l.map (·.1)).Nodup) (d : Dictionary String) :
    (l.foldl (fun d (k, value) =>
        if c.overrideMetadata || !d.contains k then d.insert k value else d) d).get? key =
      if c.overrideMetadata = true ∨ d.get? key = none then
        (Dictionary.find key l).or (d.get? key)
      else d.get? key := by
  induction l generalizing d with
  | nil => simp [Dictionary.find]
  | cons entry rest ih =>
      obtain ⟨k, value⟩ := entry
      obtain ⟨new, distinct⟩ := List.nodup_cons.mp distinct
      rw [List.foldl_cons, ih distinct, Dictionary.find]
      by_cases same : k = key
      -- The keys are distinct, so what is decided for this one stays.
      · subst same
        have undeclared : Dictionary.find k rest = none := by
          cases found : Dictionary.find k rest with
          | none => rfl
          | some v =>
              exact absurd (List.mem_map_of_mem ((Dictionary.find_eq_some distinct).mp found)) new
        rw [undeclared]
        cases c.overrideMetadata <;> cases known : d.get? k <;>
          simp [known, Dictionary.contains, Dictionary.get?_insert]
      · have kept : (if c.overrideMetadata || !d.contains k then d.insert k value else d).get? key =
            d.get? key := by
          split
          · rw [Dictionary.get?_insert, if_neg same]
          · rfl
        rw [kept, if_neg same]

/-! ### Runs -/

namespace RunSettings

/-- The run has the declared settings, with the gaps filled from the declared settings of its task
and from the repository. -/
structure Completes (r declared : RunSettings) (task : TaskSettings) (c : RepoConfig) : Prop where
  name : r.name = declared.name
  command : r.command = declared.command
  privileged : r.privileged = declared.privileged
  image : r.image = firstSet "" [declared.image, task.defaultImage, c.defaultImage]
  timeout : r.timeout =
    if c.overrideTimeout = true ∧ c.globalTimeout ≠ 0 then c.globalTimeout
    else firstSet 0 [declared.timeout, task.defaultTimeout, c.globalTimeout]
  queue : r.queue =
    if c.overrideQueue = true then c.queue
    else firstSet "" [declared.queue, task.defaultQueue, c.queue, "default"]
  resources : r.resources =
    firstSet Resources.none [declared.resources, task.defaultResources, c.defaultResources]
  metadata_keys : ∀ key,
    key ∈ r.metadata.keys ↔ key ∈ declared.metadata.keys ∨ key ∈ c.metadata.keys
  metadata : ∀ key, r.metadata.get? key =
    if c.overrideMetadata = true ∨ declared.metadata.get? key = none then
      (c.metadata.get? key).or (declared.metadata.get? key)
    else declared.metadata.get? key

variable {c : RepoConfig}

theorem effectiveTimeout_eq (r : RunSettings) (taskDefault : UInt64) (c : RepoConfig) :
    r.effectiveTimeout taskDefault c =
      if c.overrideTimeout = true ∧ c.globalTimeout ≠ 0 then c.globalTimeout
      else firstSet 0 [r.timeout, taskDefault, c.globalTimeout] := by
  rw [effectiveTimeout, firstSet_cons, firstSet_cons, firstSet_singleton]
  simp only [Bool.and_eq_true, bne_iff_ne, ne_eq, ite_not]

theorem get?_effectiveMetadata (r : RunSettings) (c : RepoConfig) (key : String) :
    (r.effectiveMetadata c).get? key =
      if c.overrideMetadata = true ∨ r.metadata.get? key = none then
        (c.metadata.get? key).or (r.metadata.get? key)
      else r.metadata.get? key :=
  get?_foldl_metadata c key c.metadata.nodup_keys r.metadata

theorem mem_keys_effectiveMetadata (r : RunSettings) (c : RepoConfig) (key : String) :
    key ∈ (r.effectiveMetadata c).keys ↔ key ∈ r.metadata.keys ∨ key ∈ c.metadata.keys := by
  simp only [← Dictionary.contains_iff, Dictionary.contains, get?_effectiveMetadata]
  cases r.metadata.get? key <;> cases c.metadata.get? key <;> cases c.overrideMetadata <;> simp

/-- Filling the gaps of a run from a task whose **own gaps are filled** before. -/
theorem complete_completes (r : RunSettings) (task : TaskSettings) (c : RepoConfig) :
    (r.complete (task.completeDefaults c) c).Completes r task c where
  name := rfl
  command := rfl
  privileged := rfl
  image := by
    simp only [complete, TaskSettings.completeDefaults, firstGiven_eq, List.cons_append,
      List.nil_append, firstSet_pair_firstSet]
  timeout := effectiveTimeout_eq r task.defaultTimeout c
  queue := by
    simp only [complete, effectiveQueue, firstGiven_eq]
    rfl
  resources := by
    simp only [complete, TaskSettings.completeDefaults, Resources.orElse_eq,
      firstSet_pair_firstSet]
  metadata_keys := mem_keys_effectiveMetadata r c
  metadata := get?_effectiveMetadata r c

end RunSettings

/-! ### Tasks -/

namespace TaskSettings

/-- The task has the declared settings, with the gaps filled from the repository. -/
structure Completes (s declared : TaskSettings) (c : RepoConfig) : Prop where
  mountpoint : s.mountpoint = declared.mountpoint
  workdir : s.workdir =
    if declared.runs.isEmpty = true then firstSet "" [declared.workdir, c.workdir]
    else firstSet "" [declared.workdir, c.workdir, declared.mountpoint]
  env : s.env = declared.env
  dependencies : s.dependencies = declared.dependencies
  /-- The runs are those that are declared, under their names. -/
  runs : ∀ name, Option.Rel (fun r d => r.Completes d declared c)
    (s.runs.get? name) (declared.runs.get? name)
  defaultTimeout : s.defaultTimeout = declared.defaultTimeout
  defaultQueue : s.defaultQueue = declared.defaultQueue
  defaultImage : s.defaultImage = firstSet "" [declared.defaultImage, c.defaultImage]
  defaultResources : s.defaultResources =
    firstSet Resources.none [declared.defaultResources, c.defaultResources]
  metadata : s.metadata = declared.metadata

variable {s s' declared : TaskSettings} {c : RepoConfig}

/-- Settings are completed by **what counts first**. -/
theorem complete_completes (declared : TaskSettings) (c : RepoConfig) :
    (declared.complete c).Completes declared c where
  mountpoint := rfl
  workdir := by
    simp only [complete, completeDefaults, firstGiven_eq, List.cons_append, List.nil_append,
      firstSet_firstSet_cons]
  env := rfl
  dependencies := rfl
  runs name := by
    have completed : (declared.complete c).runs.get? name =
        (declared.runs.get? name).map fun d => d.complete (declared.completeDefaults c) c :=
      Dictionary.get?_map _ _ name
    rw [completed]
    cases declared.runs.get? name with
    | none => exact .none
    | some d => exact .some (d.complete_completes declared c)
  defaultTimeout := rfl
  defaultQueue := rfl
  defaultImage := by
    simp only [complete, completeDefaults, firstGiven_eq, List.cons_append, List.nil_append]
  defaultResources := Resources.orElse_eq _ _
  metadata := rfl

/-- There are runs where **runs were declared**. -/
theorem Completes.isEmpty_runs (h : s.Completes declared c) :
    s.runs.isEmpty = declared.runs.isEmpty := by
  rw [Bool.eq_iff_iff, Dictionary.isEmpty_iff, Dictionary.isEmpty_iff]
  refine forall_congr' fun name => ?_
  have matched := h.runs name
  generalize s.runs.get? name = r, declared.runs.get? name = d at matched ⊢
  cases matched <;> simp

end TaskSettings

/-! ### Filling the gaps once more -/

/-- Nothing changes in a run if its gaps are filled **once more**. -/
theorem RunSettings.Completes.stable {r r' declared : RunSettings} {task s : TaskSettings}
    {c : RepoConfig} (first : r.Completes declared task c) (again : r'.Completes r s c)
    (filled : s.Completes task c) : r' = r := by
  -- A field that the repository overrides is overridden alike; any other field is missing only if
  -- all that could fill it are.
  apply RunSettings.ext
  case name => exact again.name
  case command => exact again.command
  case privileged => exact again.privileged
  case image =>
    rw [again.image, first.image, filled.defaultImage]
    exact firstSet_stable (by simp +contextual)
  case timeout =>
    by_cases overriding : c.overrideTimeout = true ∧ c.globalTimeout ≠ 0
    · rw [again.timeout, first.timeout, if_pos overriding, if_pos overriding]
    · rw [again.timeout, first.timeout, if_neg overriding, if_neg overriding,
        filled.defaultTimeout]
      exact firstSet_stable (by simp +contextual)
  case queue =>
    by_cases overriding : c.overrideQueue = true
    · rw [again.queue, first.queue, if_pos overriding, if_pos overriding]
    · rw [again.queue, first.queue, if_neg overriding, if_neg overriding, filled.defaultQueue]
      exact firstSet_stable (by simp +contextual)
  case resources =>
    rw [again.resources, first.resources, filled.defaultResources]
    exact firstSet_stable (by simp +contextual)
  case metadata =>
    refine Dictionary.ext_get? fun key => ?_
    rw [again.metadata, first.metadata]
    cases c.overrideMetadata <;> cases declared.metadata.get? key <;>
      cases c.metadata.get? key <;> simp

namespace TaskSettings

variable {s s' declared : TaskSettings} {c : RepoConfig}

/-- Nothing changes in a task if its gaps are filled **once more**. -/
theorem Completes.stable (first : s.Completes declared c) (again : s'.Completes s c) : s' = s := by
  apply TaskSettings.ext
  case mountpoint => exact again.mountpoint
  case env => exact again.env
  case dependencies => exact again.dependencies
  case defaultTimeout => exact again.defaultTimeout
  case defaultQueue => exact again.defaultQueue
  case metadata => exact again.metadata
  case workdir =>
    rw [again.workdir, first.isEmpty_runs, first.workdir, first.mountpoint]
    split <;> exact firstSet_stable (by simp +contextual)
  case defaultImage =>
    rw [again.defaultImage, first.defaultImage]
    exact firstSet_stable (by simp +contextual)
  case defaultResources =>
    rw [again.defaultResources, first.defaultResources]
    exact firstSet_stable (by simp +contextual)
  case runs =>
    refine Dictionary.ext_get? fun name => ?_
    have before := first.runs name
    have after := again.runs name
    generalize declared.runs.get? name = d, s.runs.get? name = r, s'.runs.get? name = r'
      at before after ⊢
    cases before with
    | none =>
        cases after
        rfl
    | some completes =>
        cases after with
        | some completes' => rw [completes.stable completes' first]

/-- Filling the gaps **once more** changes nothing. -/
theorem complete_complete (declared : TaskSettings) (c : RepoConfig) :
    (declared.complete c).complete c = declared.complete c :=
  (declared.complete_completes c).stable ((declared.complete c).complete_completes c)

/-! ### Usable settings -/

/-- Nothing that is **needed** is missing, and nothing is asked for that the repository does not
grant. -/
structure Usable (s : TaskSettings) (c : RepoConfig) : Prop where
  runs : ∀ r ∈ s.runs.values, r.command ≠ [] ∧ r.image ≠ "" ∧ r.queue ≠ ""
  privileged : ∀ r ∈ s.runs.values, r.privileged = true → c.allowPrivileged = true
  places : s.runs.isEmpty = false → s.mountpoint ≠ "" ∧ s.workdir ≠ ""
  dependencies : s.runs.isEmpty = true → s.dependencies ≠ []

/-- A task with runs has a **working directory** if it has a mount point. -/
theorem Completes.workdir_ne (h : s.Completes declared c) (runs : s.runs.isEmpty = false)
    (mounted : s.mountpoint ≠ "") : s.workdir ≠ "" := by
  rw [h.isEmpty_runs] at runs
  rw [h.workdir, if_neg (by simp [runs]), Ne, firstSet_eq_unset]
  intro missing
  exact mounted (h.mountpoint.trans (missing _ (by simp)))

/-- What passes the checks is **usable**. -/
theorem Completes.usable (h : s.Completes declared c)
    (granted : ∀ r ∈ s.runs.values, r.privileged = true → c.allowPrivileged = true)
    (valid : s.validate = .ok ()) : s.Usable c := by
  obtain ⟨dependencies, mounted, runs⟩ := validate_eq_ok.mp valid
  exact {
    runs := fun r mem => RunSettings.validate_eq_ok.mp (runs r mem)
    privileged := granted
    places := fun declared => ⟨mounted declared, h.workdir_ne declared (mounted declared)⟩
    dependencies := dependencies }

end TaskSettings

namespace TaskDeclaration

/-- What is read from a declaration has **its gaps filled** by what counts first, and for good. It
is usable whatever the repository configures. -/
theorem parse_completes {c : RepoConfig} {text : String} {s : TaskSettings}
    (h : parse c text = .ok s) :
    (∃ declared, Declares text declared ∧ s.Completes declared c) ∧
      s.complete c = s ∧ s.Usable c := by
  obtain ⟨declared, declares, rfl, granted, valid⟩ := parse_eq_ok.mp h
  have completes := declared.complete_completes c
  exact ⟨⟨declared, declares, completes⟩, declared.complete_complete c,
    completes.usable granted valid⟩

namespace Sample

/-- A repository with one queue for all runs, and with metadata that counts more than theirs. -/
def governing : RepoConfig where
  __ := RepoConfig.default
  queue := "linux"
  overrideQueue := true
  globalTimeout := 900
  metadata := .ofList [("team", "infra")]
  overrideMetadata := true
  defaultImage := "debian:stable"

/-- A declaration that leaves most to the repository. -/
def governed : String :=
  "mountpoint \"/src\"\nrun \"test\" \x7b\n  command \"make\" \"test\"\n  queue \"fast\"\n" ++
    "  metadata \x7b\n    area \"core\"\n    team \"core\"\n  \x7d\n\x7d\n"

/-- The only run of the declaration, with its gaps filled. -/
def governedRun : RunSettings where
  __ := RunSettings.named "test"
  command := ["make", "test"]
  image := "debian:stable"
  queue := "linux"
  timeout := 900
  metadata := .ofList [("area", "core"), ("team", "infra")]

/-- The settings that the repository makes of the declaration. -/
def governedSettings : TaskSettings where
  __ := TaskSettings.empty
  mountpoint := "/src"
  workdir := "/src"
  defaultImage := "debian:stable"
  runs := .ofList [("test", governedRun)]

end Sample

theorem parse_completes_sample :
    parse Sample.governing Sample.governed = .ok Sample.governedSettings ∧
      Sample.governedSettings.complete Sample.governing = Sample.governedSettings ∧
        Sample.governedSettings.Usable Sample.governing := by
  have read : parse Sample.governing Sample.governed = .ok Sample.governedSettings := by
    decide +kernel
  obtain ⟨-, again, usable⟩ := parse_completes read
  exact ⟨read, again, usable⟩

end TaskDeclaration

end Dispatch
