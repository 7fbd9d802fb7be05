import Dispatch.Proofs.Submission.Policy

/-!
# The order of what the code host lists

The code host lists the names of a commit, the files of a commit, and the files that differ between
two commits. A submission takes each of these lists for a set: in whatever order the entries come,
and however often each of them, it does the same. The only exception are files in a directory that
is refused, because the first of these is the one that the answer names.

## Main definitions

* `Selection.Escapes`: the directory of a file is refused.
* `HostCall.Reordered`: two answers that differ at most in the order and repetition of entries.
* `Program.Indifferent`, `Operation.Indifferent`: such answers make no difference to what follows.
* `Environment.Reorders`: environments whose code hosts give such answers.

## Main results

* `Program.Indifferent.run_eq`: an indifferent program runs alike in both.
* `Selection.taskDirectories_eq`, `Selection.changedDirectories_eq`, `Resolution.firstOr_eq`: what
  is made of the lists depends on their members only.
* `Environment.submit_reordered`: a submission does the same in both.
* `Environment.submit_refusal_ordered`: that this is not so for directories that are refused only
  because of white space around them.
-/

namespace Dispatch

/-! ### Lists of files -/

namespace Selection

/-- The directory of a file **leads upwards**, if white space around it is dropped. -/
def Escapes (path : String) : Prop :=
  Directory.parentText ∈
    Text.segments (Text.trim (Text.ofSegments (Text.segments path.toList).dropLast))

instance (path : String) : Decidable (Escapes path) := inferInstanceAs (Decidable (_ ∈ _))

/-- A file has a directory, **unless that leads upwards**. -/
theorem exists_directoryOf {path : String} (inside : ¬ Escapes path) :
    ∃ dir, directoryOf path = .ok dir := by
  rw [directoryOf]
  rw [Escapes] at inside
  split
  · exact ⟨_, rfl⟩
  · rw [Directory.normalize, String.toList_ofList]
    refine ⟨_, if_neg fun mem => inside ?_⟩
    exact List.mem_of_mem_filter mem

variable {c : RepoConfig} {files files' : List String}

/-- The task directories depend on the **members** of a list only. -/
theorem taskDirectories_eq (same : ∀ path, path ∈ files ↔ path ∈ files')
    (inside : ∀ path ∈ files, ¬ Escapes path) :
    taskDirectories c files = taskDirectories c files' := by
  obtain ⟨dirs, found⟩ : ∃ dirs, taskDirectories c files = .ok dirs :=
    exists_taskDirectories fun path mem _ => exists_directoryOf (inside path mem)
  obtain ⟨dirs', found'⟩ : ∃ dirs, taskDirectories c files' = .ok dirs :=
    exists_taskDirectories fun path mem _ => exists_directoryOf (inside path ((same path).mpr mem))
  -- No path is refused, so neither answer depends on which comes first: both are sets.
  rw [found, found']
  refine congrArg _ (Directories.ext fun dir => ?_)
  rw [mem_taskDirectories found, mem_taskDirectories found', DeclaresTask, DeclaresTask]
  simp only [same]

theorem exists_changedDirectories (inside : ∀ path ∈ files, ¬ Escapes path) :
    ∃ dirs, changedDirectories files = .ok dirs := by
  refine Except.exists_foldlM (fun path mem dirs => ?_) _
  obtain ⟨dir, normal⟩ := exists_directoryOf (inside path mem)
  rw [normal]
  exact ⟨_, rfl⟩

/-- And so do the directories of **changed files**. -/
theorem changedDirectories_eq (same : ∀ path, path ∈ files ↔ path ∈ files')
    (inside : ∀ path ∈ files, ¬ Escapes path) :
    changedDirectories files = changedDirectories files' := by
  obtain ⟨dirs, found⟩ := exists_changedDirectories inside
  obtain ⟨dirs', found'⟩ :=
    exists_changedDirectories fun path mem => inside path ((same path).mpr mem)
  rw [found, found']
  refine congrArg _ (Directories.ext fun dir => ?_)
  rw [(changedDirectories_ok found).2, (changedDirectories_ok found').2]
  simp only [same]

end Selection

/-! ### Lists of names -/

namespace Resolution

/-- The name that comes **first** in order is the least of them. -/
theorem firstOr_spec (default : String) (names : List String) :
    names = [] ∧ firstOr default names = default ∨
      firstOr default names ∈ names ∧ ∀ name ∈ names, firstOr default names ≤ name := by
  have mem (name : String) : name ∈ names.mergeSort ↔ name ∈ names := List.mem_mergeSort
  have sorted := @List.pairwise_mergeSort String (fun a b => a ≤ b)
    (fun a b c => by simpa using String.le_trans) (fun a b => by simpa using String.le_total a b)
    names
  rw [firstOr]
  cases order : names.mergeSort with
  | nil =>
      rw [order] at mem
      exact .inl ⟨List.eq_nil_iff_forall_not_mem.mpr fun name => by simp [← mem], rfl⟩
  | cons first rest =>
      rw [order] at mem sorted
      refine .inr ⟨(mem first).mp List.mem_cons_self, fun name known => ?_⟩
      rcases List.mem_cons.mp ((mem name).mpr known) with rfl | later
      · exact String.le_refl _
      · exact of_decide_eq_true (List.rel_of_pairwise_cons sorted later)

/-- The **first** of some names depends on the members of the list only. -/
theorem firstOr_eq {names names' : List String}
    (same : ∀ name, name ∈ names ↔ name ∈ names') (default : String) :
    firstOr default names = firstOr default names' := by
  rcases firstOr_spec default names with ⟨rfl, first⟩ | ⟨known, least⟩
  · obtain rfl : names' = [] := List.eq_nil_iff_forall_not_mem.mpr fun name => by simp [← same]
    rfl
  · rcases firstOr_spec default names' with ⟨rfl, -⟩ | ⟨known', least'⟩
    · exact absurd ((same _).mp known) List.not_mem_nil
    · exact String.le_antisymm (least _ ((same _).mpr known')) (least' _ ((same _).mp known))

end Resolution

/-! ### Reordered answers -/

/-- Two answers are the same, or **differ at most in the order and repetition** of what they list,
where all files are such as are told. -/
inductive HostCall.Reordered (inside : String → Prop) :
    (call : HostCall) → Except HostError call.Reply → Except HostError call.Reply → Prop
  | same {call : HostCall} (reply : Except HostError call.Reply) : Reordered inside call reply reply
  | refs {repository sha : String} {names names' : List String}
      (same : ∀ name, name ∈ names ↔ name ∈ names') :
      Reordered inside (.getRefs repository sha) (.ok names) (.ok names')
  | files {repository sha : String} {paths paths' : List String}
      (same : ∀ path, path ∈ paths ↔ path ∈ paths') (all : ∀ path ∈ paths, inside path) :
      Reordered inside (.listFiles repository sha) (.ok paths) (.ok paths')
  | diff {repository base head : String} {paths paths' : List String}
      (same : ∀ path, path ∈ paths ↔ path ∈ paths') (all : ∀ path ∈ paths, inside path) :
      Reordered inside (.getDiff repository base head) (.ok paths) (.ok paths')

/-- A call to the code host that **lists nothing**. -/
def HostCall.ListsNothing : HostCall → Prop
  | getRefs _ _ | listFiles _ _ | getDiff _ _ _ => False
  | _ => True

namespace Program

variable {α β : Type} {inside : String → Prop}

/-- A program is **indifferent** to the order and repetition of what the code host lists: after
reordered answers it goes on in the same way. -/
def Indifferent (inside : String → Prop) : Program α → Prop
  | done _ => True
  | store _ next => ∀ reply, (next reply).Indifferent inside
  | host _ call next =>
    (∀ reply reply', call.Reordered inside reply reply' → next reply = next reply') ∧
      ∀ reply, (next reply).Indifferent inside
  | notify _ next => next.Indifferent inside
  | overrun => True

theorem Indifferent.bind {p : Program α} {f : α → Program β} (first : p.Indifferent inside)
    (second : ∀ a, (f a).Indifferent inside) : (p.bind f).Indifferent inside := by
  induction p with
  | done a => exact second a
  | store call next ih => exact fun reply => ih reply (first reply)
  | host token call next ih =>
      refine ⟨fun reply reply' alike => ?_, fun reply => ih reply (first.2 reply)⟩
      exact congrArg (·.bind f) (first.1 reply reply' alike)
  | notify n next ih => exact ih first
  | overrun => trivial

/-- After a call, only **lists** can be told apart. -/
theorem indifferent_host {token : String} {call : HostCall}
    {next : Except HostError call.Reply → Program α}
    (alike : ∀ a a', call.Reordered inside (.ok a) (.ok a') → next (.ok a) = next (.ok a'))
    (each : ∀ reply, (next reply).Indifferent inside) :
    (host token call next).Indifferent inside := by
  refine ⟨fun reply reply' reordered => ?_, each⟩
  cases reordered with
  | same => rfl
  | refs same => exact alike _ _ (.refs same)
  | files same all => exact alike _ _ (.files same all)
  | diff same all => exact alike _ _ (.diff same all)

/-- A program that lets nothing be listed is indifferent to how it would be. -/
theorem Calls.indifferent {P : StoreCall → Prop} {p : Program α}
    (calls : p.Calls P HostCall.ListsNothing) : p.Indifferent inside := by
  induction p with
  | done a => trivial
  | store call next ih => exact fun reply => ih reply (calls.2 reply)
  | host token call next ih =>
      refine ⟨fun reply reply' alike => ?_, fun reply => ih reply (calls.2 reply)⟩
      cases alike with
      | same => rfl
      | refs => exact calls.1.elim
      | files => exact calls.1.elim
      | diff => exact calls.1.elim
  | notify n next ih => exact ih calls
  | overrun => trivial

end Program

/-- Surroundings that **answer alike**, but for the order and repetition of what is listed. -/
structure Surroundings.Reorders {σ : Type} (w : Surroundings σ) (inside : String → Prop)
    (w' : Surroundings σ) : Prop where
  store : w.store = w'.store
  notify : w.notify = w'.notify
  host : ∀ token call s, call.Reordered inside (w.host token call s).1 (w'.host token call s).1 ∧
    (w.host token call s).2 = (w'.host token call s).2

/-- An indifferent program **runs alike** where answers are reordered. -/
theorem Program.Indifferent.run_eq {α σ : Type} {inside : String → Prop} {w w' : Surroundings σ}
    {p : Program α} (h : p.Indifferent inside) (reorders : w.Reorders inside w') (s : σ) :
    p.run w s = p.run w' s := by
  induction p generalizing s with
  | done a => rfl
  | store call next ih =>
      rw [run, run, reorders.store]
      exact ih _ (h _) _
  | host token call next ih =>
      obtain ⟨alike, same⟩ := reorders.host token call s
      rw [run_host, run_host, h.1 _ _ alike, same]
      exact ih _ (h.2 _) _
  | notify n next ih =>
      rw [run, run, reorders.notify]
      exact ih h _
  | overrun => rfl

/-! ### Indifferent operations -/

namespace Operation

variable {α β : Type} {inside : String → Prop}

/-- An operation is **indifferent** to the order and repetition of what the code host lists. -/
def Indifferent (inside : String → Prop) (op : Operation α) : Prop :=
  Program.Indifferent inside op.run

theorem Calls.indifferent {P : StoreCall → Prop} {op : Operation α}
    (calls : op.Calls P HostCall.ListsNothing) : op.Indifferent inside :=
  Program.Calls.indifferent calls

theorem Makes.indifferent {P : StoreCall → Prop} {N : Notification → Prop} {op : Operation α}
    (makes : op.Makes P (fun _ => HostCall.ListsNothing) N) : op.Indifferent inside :=
  (makes.calls fun _ _ => id).indifferent

theorem indifferent_bind {op : Operation α} {f : α → Operation β} (first : op.Indifferent inside)
    (second : ∀ a, (f a).Indifferent inside) : (op >>= f).Indifferent inside :=
  Program.Indifferent.bind first fun
    | .ok a => second a
    | .error _ => trivial

theorem indifferent_attempt {op : Operation α} (h : op.Indifferent inside) :
    (attempt op).Indifferent inside :=
  Program.Indifferent.bind h fun _ => trivial

theorem indifferent_stage {name : String} {op : Operation α} (h : op.Indifferent inside) :
    (stage name op).Indifferent inside :=
  Program.Indifferent.bind h fun
    | .ok _ => trivial
    | .error _ => trivial

section Lists

variable {token : String} {call : HostCall} {f : call.Reply → Operation β}
  (alike : ∀ a a', call.Reordered inside (.ok a) (.ok a') → f a = f a')
  (each : ∀ a, (f a).Indifferent inside)

include alike each

/-- What is **listed** makes no difference if what follows is the same for reordered lists. -/
theorem indifferent_host : (host token call >>= f).Indifferent inside :=
  Program.indifferent_host alike fun
    | .ok a => each a
    | .error _ => trivial

theorem indifferent_stage_host {name : String} :
    (stage name (host token call) >>= f).Indifferent inside :=
  Program.indifferent_host alike fun
    | .ok a => each a
    | .error _ => trivial

end Lists

end Operation

/-! ### Submissions -/

open Operation

/-- The file does not lead upwards. -/
abbrev Inside (path : String) : Prop := ¬ Selection.Escapes path

namespace Resolution

theorem premises_indifferent (request : SubmissionRequest) :
    (premises request).Indifferent Inside := by
  have lists {call : HostCall} (h : call.Identifies) : call.ListsNothing := by
    cases call <;> trivial
  rw [premises_eq]
  refine indifferent_bind (Makes.indifferent (P := fun _ => True) (N := AnyNotice)
    (makes_footing (fun _ _ => trivial) request fun _ _ => trivial)) fun f => ?_
  refine indifferent_bind (Makes.indifferent (P := fun _ => True) (N := AnyNotice)
    (makes_reportedMain f trivial)) fun main => ?_
  exact Makes.indifferent (P := fun _ => True) (N := AnyNotice)
    (makes_premisesFrom (fun _ _ => trivial) f main (fun _ => lists) fun _ _ => trivial)

/-- A ref is named after the **first** of the names of its commit. -/
theorem refFor_indifferent (token : String) (repository : Repository) (sha : String) :
    (refFor token repository sha).Indifferent Inside := by
  have looks : (ifFound (.getRefFor repository.id sha)).Indifferent Inside :=
    (asks_ifFound (P := fun _ => True) trivial).calls.indifferent
  refine indifferent_bind looks fun known => ?_
  cases known with
  | some known => trivial
  | none =>
      refine indifferent_host ?_ fun names => ?_
      · rintro names names' (_ | same)
        · rfl
        · dsimp only
          rw [firstOr_eq same]
      · refine Calls.indifferent (P := fun _ => True) ?_
        exact calls_bind (asks_ofDomain _).calls fun _ => calls_store trivial

theorem resolve_indifferent (request : SubmissionRequest) :
    (resolve request).Indifferent Inside := by
  rw [resolve_eq, survey_eq]
  refine indifferent_bind (indifferent_bind (premises_indifferent request) fun p => ?_)
    fun found => ?_
  · refine indifferent_bind (indifferent_stage (refFor_indifferent _ _ _)) fun head => ?_
    refine indifferent_bind (indifferent_stage (refFor_indifferent _ _ _)) fun base => ?_
    refine indifferent_bind (indifferent_stage ?_) fun config => trivial
    exact Makes.indifferent (P := fun _ => True) (N := AnyNotice) (makes_configuration trivial)
  · refine indifferent_bind (indifferent_attempt (Cancellation.calls_ref _ _ _).indifferent)
      fun _ => Calls.indifferent (P := fun _ => True) ?_
    exact calls_bind (asks_tryHost trivial).calls fun _ => calls_pure _

end Resolution

namespace Picking

variable {r : Resolved}

/-- Of the changed files, only **their directories** matter. -/
theorem selection_indifferent (files : List String) (tasks : Directories) :
    (selection r files tasks).Indifferent Inside := by
  have rest (changed : List String) : Indifferent Inside (do
      let dirs ← ofConfig (Selection.changedDirectories changed)
      return Selection.select tasks dirs) :=
    Calls.indifferent (P := fun _ => True)
      (calls_bind (asks_ofConfig _).calls fun _ => calls_pure _)
  rw [selection_eq]
  split
  · trivial
  · rw [changes]
    split
    · exact rest files
    · refine indifferent_stage_host ?_ rest
      rintro changed changed' (_ | _ | _ | ⟨same, all⟩)
      · rfl
      · rw [Selection.changedDirectories_eq same all]

/-- If the commits are the same, the **files themselves** stand for the changed ones. -/
theorem selection_eq_of_same {files files' : List String}
    (same : ∀ path, path ∈ files ↔ path ∈ files') (all : ∀ path ∈ files, Inside path)
    (tasks : Directories) :
    selection r files tasks = selection r files' tasks := by
  rw [selection_eq, selection_eq, changes, changes]
  by_cases unchanged : r.base.sha = r.head.sha
  · simp only [if_pos unchanged, pure_bind, Selection.changedDirectories_eq same all]
  · simp only [if_neg unchanged]

theorem choose_indifferent (r : Resolved) : (choose r).Indifferent Inside := by
  refine indifferent_stage_host ?_ fun files => ?_
  · rintro files files' (_ | _ | ⟨same, all⟩)
    · rfl
    · rw [Selection.taskDirectories_eq same all]
      simp only [selection_eq_of_same same all]
  · exact indifferent_bind (asks_ofConfig (P := fun _ => True) _).calls.indifferent
      fun tasks => selection_indifferent files tasks

theorem pick_indifferent (limit : Nat) : (pick limit r).Indifferent Inside := by
  rw [pick_eq]
  refine indifferent_bind (choose_indifferent r) fun selected => ?_
  refine indifferent_bind (calls_stage (calls_store (P := fun _ => True) trivial)).indifferent
    fun submission => ?_
  exact Makes.indifferent (P := fun _ => True) (N := AnyNotice)
    (makes_fill (fun _ => trivial) (fun _ => trivial) (fun _ => trivial) (fun _ _ => trivial)
      (fun _ => trivial) limit selected submission)

end Picking

namespace Intake

/-- **A submission** is indifferent to the order and repetition of what the code host lists. -/
theorem submit_indifferent (limit : Nat) (request : SubmissionRequest) :
    (submit limit request).Indifferent Inside := by
  refine indifferent_bind (indifferent_stage (Resolution.resolve_indifferent request))
    fun resolved => indifferent_bind (indifferent_attempt ?_) fun outcome => ?_
  · rw [start_eq]
    refine indifferent_bind (indifferent_stage (Picking.pick_indifferent limit)) fun p => ?_
    exact (calls_lineUp p (P := fun _ => True) (fun _ _ => trivial) trivial).indifferent
  · cases outcome <;> trivial

end Intake

/-! ### In a service -/

namespace Environment

variable {η : Type} {env env' : Environment η} {inside : String → Prop}

/-- Environments that differ at most in **the order and repetition** of what the code host lists. -/
structure Reorders (env : Environment η) (inside : String → Prop) (env' : Environment η) :
    Prop where
  store : env.store = env'.store
  address : env.address = env'.address
  host : ∀ token call outside,
    call.Reordered inside (env.host token call outside).1 (env'.host token call outside).1 ∧
      (env.host token call outside).2 = (env'.host token call outside).2

theorem Reorders.surroundings (h : env.Reorders inside env') (c : Circumstances) :
    (env.surroundings c).Reorders inside (env'.surroundings c) where
  store := by
    funext call σ
    simp only [Environment.surroundings, answerStore, h.store, h.address]
  notify := by
    funext n σ
    simp only [Environment.surroundings, h.address]
  host token call σ := by
    simp only [Environment.surroundings, answerHost, h.address]
    set τ := σ.turn c env'.address
    obtain ⟨alike, same⟩ := h.host token call τ.core.outside
    cases call.tried? (c.failure τ.tried.length) with
    | some reply => exact ⟨.same reply, rfl⟩
    | none => exact ⟨alike, by rw [same]⟩

end Environment

namespace Sample

/-- A code host that lists the given names for every commit, and the given files. -/
def listing (names paths : List String) : (call : HostCall) → Except HostError call.Reply
  | .getRefs _ _ => .ok names
  | .listFiles _ _ | .getDiff _ _ _ => .ok paths
  | call => host.lookUp call

theorem listing_reorders {inside : String → Prop} {names names' paths paths' : List String}
    (sameNames : ∀ name, name ∈ names ↔ name ∈ names')
    (samePaths : ∀ path, path ∈ paths ↔ path ∈ paths') (all : ∀ path ∈ paths, inside path) :
    (environment (listing names paths)).Reorders inside (environment (listing names' paths')) where
  store := rfl
  address := rfl
  host token call outside := by
    refine ⟨?_, rfl⟩
    cases call with
    | getRefs _ _ => exact .refs sameNames
    | listFiles _ _ => exact .files samePaths all
    | getDiff _ _ _ => exact .diff samePaths all
    | _ => exact .same _

/-- Two files whose directories lead upwards once white space around them is dropped. -/
def oddPaths : List String := [" ../task.kdl", ".. /task.kdl"]

/-- How a submission **fails** on a code host, if it does. -/
def failure? (host : (call : HostCall) → Except HostError call.Reply) : Option String :=
  match Program.run ((environment host).surroundings idle)
      (Intake.submit 5 (request first)).run service with
  | some (.error e, _) => some e.message
  | _ => none

end Sample

namespace Environment

variable {η : Type} {env env' : Environment η}

/-- Without a segment that leads upwards, a directory can still be refused for the **white space**
around it, and then the order of the files shows in the answer. -/
theorem submit_refusal_ordered :
    Sample.service.core.store.ReachableBy (fun _ => True) ∧
    (Sample.environment (Sample.listing [] Sample.oddPaths)).Reorders
      (fun path => Directory.parentText ∉ Text.segments path.toList)
      (Sample.environment (Sample.listing [] Sample.oddPaths.reverse)) ∧
    Program.run ((Sample.environment (Sample.listing [] Sample.oddPaths)).surroundings Sample.idle)
        (Intake.submit 5 (Sample.request Sample.first)).run Sample.service ≠
      Program.run
        ((Sample.environment (Sample.listing [] Sample.oddPaths.reverse)).surroundings Sample.idle)
        (Intake.submit 5 (Sample.request Sample.first)).run Sample.service := by
  refine ⟨Sample.reachable _, ?_, fun same => ?_⟩
  · exact Sample.listing_reorders (fun _ => Iff.rfl) (fun _ => List.mem_reverse.symm)
      (by decide +kernel)
  · have failures : Sample.failure? (Sample.listing [] Sample.oddPaths) ≠
        Sample.failure? (Sample.listing [] Sample.oddPaths.reverse) := by decide +kernel
    refine failures ?_
    rw [Sample.failure?, Sample.failure?, same]

/-- **The order in which the code host lists things does not matter**, nor does how often it lists
them, as long as no directory leads upwards once white space around it is dropped: a submission
comes to the same answer, leaves the same store and makes the same calls. -/
theorem submit_reordered (reorders : env.Reorders Inside env') (c : Circumstances) (limit : Nat)
    (request : SubmissionRequest) (σ : Service η) :
    Program.run (env.surroundings c) (Intake.submit limit request).run σ =
      Program.run (env'.surroundings c) (Intake.submit limit request).run σ :=
  (Intake.submit_indifferent limit request).run_eq (reorders.surroundings c) σ

/-- A task is found, wherever and how often the files list it. -/
theorem submit_reordered_sample :
    let names := ["heads/feature"]
    let paths := ["lib/main.rs", "task.kdl"]
    let outcome (names paths : List String) :=
      Program.run ((Sample.environment (Sample.listing names paths)).surroundings Sample.idle)
        (Intake.submit 5 (Sample.request Sample.first)).run Sample.service
    (outcome names paths).any (fun x => x.2.core.store.runs.length = 1) = true ∧
      outcome names paths = outcome (names ++ names) (paths.reverse ++ paths) := by
  refine ⟨by decide +kernel, submit_reordered ?_ Sample.idle 5 (Sample.request Sample.first)
    Sample.service⟩
  exact Sample.listing_reorders (fun _ => by rw [List.mem_append, or_self])
    (fun _ => by rw [List.mem_append, List.mem_reverse, or_self]) (by decide +kernel)

end Environment

end Dispatch
