import Dispatch.Proofs.Dependency.Cycle
import Dispatch.Proofs.History
import Mathlib.Data.List.Perm.Subperm

/-!
# Loading a closure

Where the code host always answers alike and has files for finitely many directories, loading comes
to an end, and what it comes to is determined by those answers: the declarations of the closure of
the selected directories under their dependencies, what is wrong with one of them, or a cycle among
them. The limit on the number of directories makes no difference once it is greater than the number
of files. Nothing is asked but for the files of some directories of the closure, once for each.

## Main definitions

* `Picking.declaration`: what a directory declares, given the answers of the code host.
* `Picking.Requires`, `Picking.Reached`: dependencies by these declarations, and the closure.
* `Surroundings.Serves`, `Surroundings.askedFor`: surroundings that give these answers, and their
  state after some files have been asked for.
* `Picking.Expanding`: what holds while the closure is loaded.
* `Picking.Expansion`: what loading comes to.
* `Session.file`: the answers of a scripted code host.

## Main results

* `Picking.Expanding.step`: loading one directory more keeps what holds.
* `Picking.loadWaiting_run`: loading comes to an end.
* `Picking.load_expands`: what loading comes to.
* `Session.load_finishes`: a session never reaches its limit on directories.
-/

namespace Dispatch

open Relation (TransGen)

namespace Picking

open Selection

/-! ### What the code host determines -/

section Answers

variable (r : Resolved) (file : String → Except HostError (List UInt8))

/-- What a directory **declares**, given how the code host answers when asked for the files of
directories. -/
def declaration (dir : String) : Except ConfigError TaskSettings :=
  match file dir with
  | .ok bytes => TaskDeclaration.parse r.config (Text.ofBytes bytes)
  | .error e => .error (loadError dir e)

/-- A directory **requires** those that its declaration names. -/
def Requires (dir dep : String) : Prop :=
  ∃ settings, declaration r file dir = .ok settings ∧ dep ∈ settings.dependencies

/-- The **closure** of the selected directories: the least set that contains them and, with a
directory, those that it requires. -/
def Reached (selected : Directories) : String → Prop :=
  Needed (· ∈ selected.keys) (Requires r file)

/-- What loading the selected directories **comes to**. -/
structure Expansion (selected : Directories) (result : Loaded) : Prop where
  /-- If every directory of the closure has a declaration, and there is no cycle, it comes to these
  declarations. -/
  loaded :
    (∀ dir, Reached r file selected dir → ∃ settings, declaration r file dir = .ok settings) →
    (∀ dir, Reached r file selected dir → ¬ TransGen (Requires r file) dir dir) →
    ∃ final, result = .ok final ∧ ∀ dir settings, final.get? dir = some settings ↔
      Reached r file selected dir ∧ declaration r file dir = .ok settings
  /-- If one of them has none, it comes to what is wrong with such a directory, and names it. -/
  refused : (∃ dir e, Reached r file selected dir ∧ declaration r file dir = .error e) →
    ∃ dir e, Reached r file selected dir ∧ declaration r file dir = .error e ∧
      result = .error (dir, e)
  /-- If there is a cycle, that is what it comes to. -/
  cyclic :
    (∀ dir, Reached r file selected dir → ∃ settings, declaration r file dir = .ok settings) →
    (∃ dir, Reached r file selected dir ∧ TransGen (Requires r file) dir dir) →
    ∃ dir text, result = .error (dir, .cycle text)

end Answers

end Picking

/-! ### Surroundings -/

namespace Surroundings

open Selection

variable {σ : Type}

/-- While something holds of the surroundings, and that is not changed by asking for files, the code
host **always answers alike** when it is asked for the file of a directory. -/
structure Serves (w : Surroundings σ) (r : Resolved)
    (file : String → Except HostError (List UInt8)) (holds : σ → Prop) : Prop where
  answers : ∀ dir s, holds s →
    (w.host r.token (.getFile r.fork.name r.head.sha (declarationPath dir)) s).1 = file dir
  stays : ∀ dir s, holds s →
    holds (w.host r.token (.getFile r.fork.name r.head.sha (declarationPath dir)) s).2

/-- The state of surroundings after the files of some directories **have been asked for**, and
nothing else has happened. -/
def askedFor (w : Surroundings σ) (r : Resolved) : List String → σ → σ
  | [], s => s
  | dir :: dirs, s =>
    w.askedFor r dirs (w.host r.token (.getFile r.fork.name r.head.sha (declarationPath dir)) s).2

end Surroundings

namespace Picking

open Selection

variable {r : Resolved} {file : String → Except HostError (List UInt8)}
  {selected seen : Directories} {waiting : List String} {loaded : Dictionary TaskSettings}
  {dir : String}

/-- Asking for the file of a directory tells what it declares. -/
theorem loadOne_run {σ : Type} {w : Surroundings σ} {s : σ} {holds : σ → Prop}
    (serves : w.Serves r file holds) (now : holds s) (dir : String) :
    (loadOne r dir).run w s = some (declaration r file dir, w.askedFor r [dir] s) := by
  have answer := serves.answers dir s now
  rw [loadOne, Program.run, declaration, ← answer]
  dsimp only
  cases (w.host r.token (.getFile r.fork.name r.head.sha (declarationPath dir)) s).1 <;> rfl

/-! ### While the closure is loaded -/

/-- What holds **while the closure is loaded**. -/
structure Expanding (r : Resolved) (file : String → Except HostError (List UInt8))
    (selected : Directories) (waiting : List String) (seen : Directories)
    (loaded : Dictionary TaskSettings) : Prop extends Loading waiting seen loaded where
  begun : ∀ dir ∈ selected.keys, dir ∈ seen.keys
  /-- Only directories of the closure are seen. -/
  within : ∀ dir ∈ seen.keys, Reached r file selected dir
  declared : ∀ dir settings, loaded.get? dir = some settings → declaration r file dir = .ok settings

/-- It holds at first. -/
theorem Expanding.start (r : Resolved) (file : String → Except HostError (List UInt8))
    (selected : Directories) : Expanding r file selected selected.keys selected .empty where
  toLoading := ⟨selected.nodup_keys, by simp, by simp, by simp⟩
  begun _ mem := mem
  within _ mem := .start mem
  declared := by simp

/-- The next directory belongs to the closure. -/
theorem Expanding.next (h : Expanding r file selected (dir :: waiting) seen loaded) :
    Reached r file selected dir :=
  h.within dir ((h.seen_iff dir).mpr (.inl List.mem_cons_self))

/-- Loading one directory more **keeps what holds**. -/
theorem Expanding.step (h : Expanding r file selected (dir :: waiting) seen loaded)
    {settings : TaskSettings} (declares : declaration r file dir = .ok settings) :
    Expanding r file selected (await waiting seen settings.dependencies).1
      (await waiting seen settings.dependencies).2 (loaded.insert dir settings) where
  toLoading := h.toLoading.step settings
  begun d mem := by
    obtain ⟨_, -, -, -, seen'⟩ := await_eq waiting seen settings.dependencies
    exact (seen' d).mpr (.inl (h.begun d mem))
  within d mem := by
    obtain ⟨_, -, -, -, seen'⟩ := await_eq waiting seen settings.dependencies
    rcases (seen' d).mp mem with old | dep
    · exact h.within d old
    · exact .needs h.next ⟨settings, declares, dep⟩
  declared d settings' found := by
    rw [Dictionary.get?_insert] at found
    split at found
    · next same =>
        cases found
        exact same ▸ declares
    · exact h.declared d settings' found

/-- When nothing waits any more, the **whole closure** has been loaded. -/
theorem Expanding.reached (h : Expanding r file selected [] seen loaded) {d : String}
    (reached : Reached r file selected d) : d ∈ loaded.keys := by
  have all (d : String) : d ∈ seen.keys → d ∈ loaded.keys := by simpa using (h.seen_iff d).mp
  induction reached with
  | start mem => exact all _ (h.begun _ mem)
  | @needs d e _ requires ih =>
      obtain ⟨settings, declares, dep⟩ := requires
      obtain ⟨settings', found⟩ := Dictionary.mem_keys.mp ih
      obtain rfl : settings = settings' :=
        Except.ok.inj (declares.symm.trans (h.declared d settings' found))
      exact all e (h.closed d settings found e dep)

/-- And **nothing else** has. -/
theorem Expanding.loaded_iff (h : Expanding r file selected [] seen loaded) (d : String)
    (settings : TaskSettings) : loaded.get? d = some settings ↔
      Reached r file selected d ∧ declaration r file d = .ok settings := by
  constructor
  · intro found
    have known : d ∈ loaded.keys := Dictionary.mem_keys.mpr ⟨settings, found⟩
    exact ⟨h.within d ((h.seen_iff d).mpr (.inr known)), h.declared d settings found⟩
  · rintro ⟨reached, declares⟩
    obtain ⟨settings', found⟩ := Dictionary.mem_keys.mp (h.reached reached)
    rw [found, Except.ok.inj (declares.symm.trans (h.declared d settings' found))]

/-! ### Coming to an end -/

variable {paths : List String}

/-- What declares anything has a file. -/
theorem mem_of_declaration
    (finite : ∀ dir bytes, file dir = .ok bytes → declarationPath dir ∈ paths)
    {settings : TaskSettings} (declares : declaration r file dir = .ok settings) :
    declarationPath dir ∈ paths := by
  rw [declaration] at declares
  split at declares
  · next bytes given => exact finite dir bytes given
  · cases declares

/-- No more directories are loaded **than have files**. -/
theorem Expanding.size_le (h : Expanding r file selected waiting seen loaded)
    (finite : ∀ dir bytes, file dir = .ok bytes → declarationPath dir ∈ paths) :
    loaded.keys.length ≤ paths.length := by
  have distinct : (loaded.keys.map declarationPath).Nodup :=
    loaded.nodup_keys.map fun _ _ => declarationPath_injective
  have within : loaded.keys.map declarationPath ⊆ paths := by
    intro path mem
    obtain ⟨d, known, rfl⟩ := List.mem_map.mp mem
    obtain ⟨settings, found⟩ := Dictionary.mem_keys.mp known
    exact mem_of_declaration finite (h.declared d settings found)
  have size := (List.subperm_of_subset distinct within).length_le
  rwa [List.length_map] at size

/-- What **comes out** before cycles are looked for. -/
inductive Gathering (r : Resolved) (file : String → Except HostError (List UInt8))
    (selected : Directories) : Loaded → Prop
  /-- The declarations of the whole closure. -/
  | whole (final : Dictionary TaskSettings)
      (reached : ∀ d, Reached r file selected d → d ∈ final.keys)
      (settled : ∀ d settings, final.get? d = some settings ↔
        Reached r file selected d ∧ declaration r file d = .ok settings) :
      Gathering r file selected (.ok final)
  /-- What is wrong with the declaration of a directory. -/
  | stopped (dir : String) (e : ConfigError) (reached : Reached r file selected dir)
      (fails : declaration r file dir = .error e) : Gathering r file selected (.error (dir, e))

/-- Loading the waiting directories and what they depend on **comes to an end**, with no more calls
than for the files of some directories that had not been loaded. -/
theorem loadWaiting_run
    (finite : ∀ dir bytes, file dir = .ok bytes → declarationPath dir ∈ paths)
    (h : Expanding r file selected waiting seen loaded) :
    ∃ (dirs : List String) (result : Loaded), dirs.Nodup ∧
      (∀ d ∈ dirs, d ∉ loaded.keys ∧ Reached r file selected d) ∧
      Gathering r file selected result ∧
      ∀ {σ : Type} (w : Surroundings σ) (holds : σ → Prop) (s : σ) (limit : Nat),
        w.Serves r file holds → holds s → paths.length < limit + loaded.keys.length →
        (loadWaiting r limit waiting seen loaded).run w s = some (result, w.askedFor r dirs s) := by
  induction left : paths.length - loaded.keys.length using Nat.strongRecOn
    generalizing waiting seen loaded with
  | _ n ih =>
      cases waiting with
      | nil =>
          refine ⟨[], .ok loaded, .nil, by simp,
            .whole loaded (fun _ => h.reached) h.loaded_iff, ?_⟩
          intro σ w holds s limit _ _ _
          rw [loadWaiting]
          rfl
      | cons dir waiting =>
          have size := h.size_le finite
          have new : dir ∉ loaded.keys := h.apart dir List.mem_cons_self
          cases declares : declaration r file dir with
          | error e =>
              refine ⟨[dir], .error (dir, e), List.nodup_singleton dir,
                List.forall_mem_singleton.mpr ⟨new, h.next⟩, .stopped dir e h.next declares, ?_⟩
              intro σ w holds s limit serves now enough
              obtain ⟨limit, rfl⟩ := Nat.exists_eq_succ_of_ne_zero (n := limit) (by omega)
              rw [loadWaiting, Program.run_bind, loadOne_run serves now, declares]
              rfl
          | ok settings =>
              have grown := Dictionary.length_keys_insert new settings
              have room := (h.step declares).size_le finite
              obtain ⟨dirs, result, distinct, fresh, gathers, runs⟩ :=
                ih _ (by omega) (h.step declares) rfl
              simp only [Dictionary.mem_keys_insert, not_or] at fresh
              refine ⟨dir :: dirs, result, List.nodup_cons.mpr ⟨fun mem => ?_, distinct⟩,
                List.forall_mem_cons.mpr ⟨⟨new, h.next⟩, fun d mem => ?_⟩, gathers, ?_⟩
              · exact (fresh dir mem).1.1 rfl
              · exact ⟨(fresh d mem).1.2, (fresh d mem).2⟩
              · intro σ w holds s limit serves now enough
                obtain ⟨limit, rfl⟩ := Nat.exists_eq_succ_of_ne_zero (n := limit) (by omega)
                rw [loadWaiting, Program.run_bind, loadOne_run serves now, declares]
                exact runs w holds _ limit serves (serves.stays dir s now) (by omega)

/-! ### Cycles -/

/-- The edges of the graph that is searched are the **dependencies** of loaded directories. -/
theorem dependsOn_dependencies {d e : String} :
    (dependencies loaded).DependsOn d e ↔ DependsOn loaded d e := by
  rw [DependencyGraph.DependsOn, DependencyGraph.dependencies, dependencies, Dictionary.get?_map,
    DependsOn]
  cases loaded.get? d <;> simp

section Whole

variable {final : Dictionary TaskSettings}
  (settled : ∀ d settings, final.get? d = some settings ↔
    Reached r file selected d ∧ declaration r file d = .ok settings)

include settled

theorem dependsOn_iff {d e : String} : (dependencies final).DependsOn d e ↔
    Reached r file selected d ∧ Requires r file d e := by
  rw [dependsOn_dependencies, DependsOn, Requires]
  simp only [settled]
  constructor
  · rintro ⟨settings, ⟨reached, declares⟩, dep⟩
    exact ⟨reached, settings, declares, dep⟩
  · rintro ⟨reached, settings, declares, dep⟩
    exact ⟨settings, ⟨reached, declares⟩, dep⟩

/-- A cycle in that graph is a **cycle in the closure**. -/
theorem cyclic_iff : (∃ d, TransGen (dependencies final).DependsOn d d) ↔
    ∃ d, Reached r file selected d ∧ TransGen (Requires r file) d d := by
  constructor
  · rintro ⟨d, cycle⟩
    obtain ⟨e, depends, -⟩ := TransGen.head'_iff.mp cycle
    have requires : TransGen (Requires r file) d d :=
      TransGen.mono (fun _ _ depends => ((dependsOn_iff settled).mp depends).2) d d cycle
    exact ⟨d, ((dependsOn_iff settled).mp depends).1, requires⟩
  · rintro ⟨d, reached, cycle⟩
    have along {e : String} (chain : TransGen (Requires r file) d e) :
        Reached r file selected e ∧ TransGen (dependencies final).DependsOn d e := by
      induction chain with
      | single requires =>
          exact ⟨.needs reached requires, .single ((dependsOn_iff settled).mpr ⟨reached, requires⟩)⟩
      | tail _ requires ih =>
          exact ⟨.needs ih.1 requires, ih.2.tail ((dependsOn_iff settled).mpr ⟨ih.1, requires⟩)⟩
    exact ⟨d, (along cycle).2⟩

end Whole

/-! ### What loading comes to -/

/-- After cycles have been looked for, that is what loading comes to. -/
theorem Gathering.expansion {result : Loaded} (h : Gathering r file selected result) :
    Expansion r file selected (result.bind checkCycle) := by
  cases h with
  | stopped dir e reached fails =>
      have broken : ¬ ∀ d, Reached r file selected d →
          ∃ settings, declaration r file d = .ok settings := by
        intro fine
        obtain ⟨settings, declares⟩ := fine dir reached
        cases declares.symm.trans fails
      exact
        { loaded := fun fine => absurd fine broken
          refused := fun _ => ⟨dir, e, reached, fails, rfl⟩
          cyclic := fun fine => absurd fine broken }
  | whole final reached settled =>
      have fine (d : String) (h : Reached r file selected d) :
          ∃ settings, declaration r file d = .ok settings := by
        obtain ⟨settings, found⟩ := Dictionary.mem_keys.mp (reached d h)
        exact ⟨settings, ((settled d settings).mp found).2⟩
      have refused : ¬ ∃ d e, Reached r file selected d ∧ declaration r file d = .error e := by
        rintro ⟨d, e, h, fails⟩
        obtain ⟨settings, declares⟩ := fine d h
        cases declares.symm.trans fails
      have cycles := cyclic_iff settled
      cases found : (dependencies final).closingEdge? with
      | none =>
          have acyclic := DependencyGraph.closingEdge?_eq_none.mp found
          have result : checkCycle final = .ok final := by rw [checkCycle, found]
          exact
            { loaded := fun _ _ => ⟨final, result, settled⟩
              refused := fun broken => absurd broken refused
              cyclic := fun _ cycle => by
                obtain ⟨d, cycle⟩ := cycles.mpr cycle
                exact absurd cycle (acyclic d) }
      | some edge =>
          have cycle := (DependencyGraph.closingEdge?_eq_some found).cyclic
          have result : ∃ dir, checkCycle final = .error (dir, .cycle edge.text) :=
            ⟨_, by rw [checkCycle, found]⟩
          exact
            { loaded := fun _ acyclic => by
                obtain ⟨d, reached, cycle⟩ := cycles.mp ⟨edge.source, cycle⟩
                exact absurd cycle (acyclic d reached)
              refused := fun broken => absurd broken refused
              cyclic := fun _ _ => result.imp fun _ result => ⟨edge.text, result⟩ }

/-- Loading comes to an end, and to what the answers of the code host **determine**. -/
theorem load_run (r : Resolved) (selected : Directories)
    (finite : ∀ dir bytes, file dir = .ok bytes → declarationPath dir ∈ paths) :
    ∃ (dirs : List String) (result : Loaded), dirs.Nodup ∧
      (∀ dir ∈ dirs, Reached r file selected dir) ∧ Expansion r file selected result ∧
      ∀ {σ : Type} (w : Surroundings σ) (holds : σ → Prop) (s : σ) (limit : Nat),
        w.Serves r file holds → holds s → paths.length < limit →
        (load limit r selected).run w s = some (result, w.askedFor r dirs s) := by
  obtain ⟨dirs, result, distinct, asked, gathers, runs⟩ :=
    loadWaiting_run finite (.start r file selected)
  refine ⟨dirs, result.bind checkCycle, distinct, fun d mem => (asked d mem).2,
    gathers.expansion, ?_⟩
  intro σ w holds s limit serves now enough
  rw [load, Program.run_bind, runs w holds s limit serves now (by omega)]
  cases result <;> rfl

end Picking

/-! ### Sessions -/

namespace Session

variable {σ : Session}

/-- What the script of a session has in the file of a directory. -/
def file (σ : Session) (r : Resolved) (dir : String) : Except HostError (List UInt8) :=
  σ.host.lookUp (.getFile r.fork.name r.head.sha (Selection.declarationPath dir))

/-- The paths of the files in the script of a session. -/
def filePaths (σ : Session) : List String := σ.host.files.map fun (_, _, path, _) => path

/-- A script **has finitely many** files. -/
theorem mem_filePaths {r : Resolved} {dir : String} {bytes : List UInt8}
    (given : σ.file r dir = .ok bytes) : Selection.declarationPath dir ∈ σ.filePaths := by
  rw [file, HostScript.lookUp] at given
  cases found : σ.host.files.find? fun (repository, revision, path, _) =>
      HostScript.fits repository r.fork.name && HostScript.fits revision r.head.sha &&
        path = Selection.declarationPath dir with
  | none =>
      rw [found] at given
      cases given
  | some entry =>
      have fits := List.find?_some found
      simp only [Bool.and_eq_true, decide_eq_true_eq] at fits
      exact fits.2 ▸ List.mem_map_of_mem (List.mem_of_find?_eq_some found)

/-- Where nothing is to fail at the code host, it **always answers alike**, and that stays so. -/
theorem serves (silent : σ.host.faults = []) (r : Resolved) :
    surroundings.Serves r (σ.file r) fun s => s.host = σ.host where
  answers dir s same := by
    change (answerHost _ _ s).1 = _
    rw [answerHost_eq (same ▸ silent), same, file]
  stays dir s same := by
    change (answerHost _ _ s).2.host = _
    rw [answerHost_eq (same ▸ silent), same]

/-- The limit on the directories that a session loads is **never reached** where nothing is to fail
at the code host. -/
theorem load_finishes (silent : σ.host.faults = []) (r : Resolved) (selected : Directories) :
    ∃ dirs result, Picking.Expansion r (σ.file r) selected result ∧
      (Picking.load σ.directoryLimit r selected).run surroundings σ =
        some (result, surroundings.askedFor r dirs σ) := by
  have finite : ∀ dir bytes, σ.file r dir = .ok bytes →
      Selection.declarationPath dir ∈ σ.filePaths := fun _ _ => mem_filePaths
  obtain ⟨dirs, result, -, -, expands, runs⟩ := Picking.load_run r selected finite
  have enough : σ.filePaths.length < σ.directoryLimit := by
    rw [filePaths, List.length_map, directoryLimit]
    exact Nat.lt_succ_self _
  exact ⟨dirs, result, expands, runs surroundings _ σ _ (serves silent r) rfl enough⟩

end Session

namespace Sample

/-- The record of the repository. -/
def registered : Repository where
  id := .issued .repository 1
  name := repository.name
  isPrivate := repository.isPrivate
  disabled := repository.disabled
  defaultBranch := repository.defaultBranch
  metadata := repository.metadata
  owner := repository.owner
  hookSecret := repository.hookSecret
  createdAt := .startOfYear 0

/-- The demand to test a commit, as it is resolved. -/
def resolved : Resolved where
  request := request first
  parent := registered
  fork := registered
  token := "token"
  base := ⟨.issued .gitRef 1, .issued .repository 1, "heads/main", base⟩
  head := ⟨.issued .gitRef 2, .issued .repository 1, "heads/feature", first⟩
  submitter := none
  config := .default
  mainBranch := "heads/main"

/-- The file of a task that has no runs, only dependencies. -/
def depending (path dependencies : String) : String × String × String × List UInt8 :=
  ("*", "*", path, Text.encodeUtf8 ("dependencies " ++ dependencies ++ "\n"))

/-- A session in which the task of the root depends on another one, that of a directory on one that
is not there, and those of two directories on each other. -/
def entangled : Session :=
  let files := [depending "task.kdl" "\"lib\"",
    ("*", "*", "lib/task.kdl", Text.encodeUtf8 declaration),
    depending "lost/task.kdl" "\"gone\"",
    depending "egg/task.kdl" "\"hen\"", depending "hen/task.kdl" "\"egg\""]
  { Session.new { host with files } 10 [] with store }

/-- In this session, loading the selected directories **comes to** what it should, which is the
declarations of some directories or what is wrong with one. -/
def LoadsAs (selected : Directories) (final : Except (String × ConfigError) (List String)) :
    Prop :=
  ∃ dirs result, dirs.Nodup ∧ Picking.Expansion resolved (entangled.file resolved) selected result ∧
    (Picking.load 6 resolved selected).run Session.surroundings entangled =
      some (result, Session.surroundings.askedFor resolved dirs entangled) ∧
    result.map Dictionary.keys = final

end Sample

namespace Picking

open Selection

/-- **What loading comes to**, if the code host always answers alike and has files for finitely many
directories. It makes no call to the store, and asks for the file of a directory at most once. -/
theorem load_expands {file : String → Except HostError (List UInt8)} {paths : List String}
    (r : Resolved) (selected : Directories)
    (finite : ∀ dir bytes, file dir = .ok bytes → declarationPath dir ∈ paths) :
    (∀ limit, (load limit r selected).Asks (fun _ => False) (AsksForDeclaration r)) ∧
    ∃ (dirs : List String) (result : Loaded), dirs.Nodup ∧
      (∀ dir ∈ dirs, Reached r file selected dir) ∧ Expansion r file selected result ∧
      ∀ {σ : Type} (w : Surroundings σ) (holds : σ → Prop) (s : σ) (limit : Nat),
        w.Serves r file holds → holds s → paths.length < limit →
        (load limit r selected).run w s = some (result, w.askedFor r dirs s) := by
  constructor
  · intro limit
    exact (makes_load (Q := fun _ => AsksForDeclaration r) (fun dir => ⟨dir, rfl⟩) limit
      selected).asks fun _ _ => id
  · exact load_run r selected finite

theorem load_expands_sample :
    Sample.LoadsAs (.add .empty ".") (.ok [".", "lib"]) ∧
    Sample.LoadsAs (.add .empty "lost") (.error
      ("gone", .invalidReference "no task.kdl in \"gone\"")) ∧
    Sample.LoadsAs (.add .empty "hen") (.error ("hen", .cycle "hen -> egg")) := by
  have finite : ∀ dir bytes, Sample.entangled.file Sample.resolved dir = .ok bytes →
      declarationPath dir ∈ Sample.entangled.filePaths := fun _ _ => Session.mem_filePaths
  have loads (selected : Directories) (final : Except (String × ConfigError) (List String))
      (h : ((load 6 Sample.resolved selected).run Session.surroundings Sample.entangled).map
        (fun ran => ran.1.map Dictionary.keys) = some final) : Sample.LoadsAs selected final := by
    obtain ⟨-, dirs, result, distinct, -, expands, runs⟩ :=
      load_expands Sample.resolved selected finite
    have ran := runs Session.surroundings _ Sample.entangled 6
      (Session.serves rfl Sample.resolved) rfl (by decide)
    rw [ran] at h
    exact ⟨dirs, result, distinct, expands, ran, Option.some.inj h⟩
  exact ⟨loads _ _ (by decide +kernel), loads _ _ (by decide +kernel),
    loads _ _ (by decide +kernel)⟩

end Picking

end Dispatch
