import Dispatch.Proofs.Conduct
import Dispatch.Proofs.Dictionary

/-!
# Loading declarations

Declarations are loaded directory by directory: first those of the selected directories, and then
those of the directories they depend on, as they become known. What comes out are the declarations
of the least set of directories that contains the selected ones and, with a directory, those that
it depends on. Each is what the code host gave for the file in the directory at the head commit.

## Main definitions

* `Needed`: the least set with given members that is closed under a relation.
* `Picking.Declares`: what the code host gave for a directory, as settings.
* `Picking.Loading`: what holds of the directories that wait, were seen and have been loaded.

## Main results

* `Picking.Loading.step`: loading a directory keeps that.
* `Picking.load_ok`: what has been loaded in the end.
* `Picking.load_store`: loading leaves the store alone.
-/

namespace Dispatch

/-! ### Closures -/

/-- The **least set** that contains what it starts with and is closed under a relation. -/
inductive Needed {α : Type} (start : α → Prop) (needs : α → α → Prop) : α → Prop
  | start {a : α} : start a → Needed start needs a
  | needs {a b : α} : Needed start needs a → needs a b → Needed start needs b

/-- A closure of members of a closure adds nothing. -/
theorem Needed.trans {α : Type} {first second : α → Prop} {needs : α → α → Prop}
    (within : ∀ a, second a → Needed first needs a) {a : α} (h : Needed second needs a) :
    Needed first needs a := by
  induction h with
  | start h => exact within _ h
  | needs _ h ih => exact .needs ih h

/-! ### Paths -/

/-- The files of different directories have different paths. -/
theorem Selection.declarationPath_injective {dir dir' : String}
    (h : declarationPath dir = declarationPath dir') : dir = dir' := by
  have length := congrArg String.length h
  rw [declarationPath, declarationPath] at h length
  by_cases root : dir = Directory.root
  · by_cases root' : dir' = Directory.root
    · rw [root, root']
    · rw [if_pos root, if_neg root'] at length
      simp [String.length_append] at length
  · by_cases root' : dir' = Directory.root
    · rw [if_neg root, if_pos root'] at length
      simp [String.length_append] at length
    · rw [if_neg root, if_neg root'] at h
      have chars := congrArg String.toList h
      simp only [String.toList_append] at chars
      exact String.toList_inj.mp (List.append_cancel_right (List.append_cancel_right chars))

/-- The file of a directory always has **the same name**. -/
theorem Selection.fileName_declarationPath (dir : String) :
    fileName (declarationPath dir) = TaskDeclaration.fileName := by
  rw [declarationPath]
  split
  · decide
  · have segments : Text.segments (dir ++ "/" ++ TaskDeclaration.fileName).toList =
        Text.segments dir.toList ++ [TaskDeclaration.fileName.toList] := by
      rw [String.toList_append, String.toList_append, List.append_assoc]
      exact List.splitOnP_append_cons dir.toList TaskDeclaration.fileName.toList (by decide)
    rw [fileName, segments, List.getLastD_concat, String.ofList_toList]

namespace Picking

open Selection

variable {r : Resolved} {s s' : Store} {tr : Trace}

/-! ### Dependencies that have not been seen -/

/-- Of some dependencies, those that have not been seen wait in addition. -/
theorem await_eq (waiting : List String) (seen : Directories) (deps : List String) :
    ∃ fresh, (await waiting seen deps).1 = waiting ++ fresh ∧ fresh.Nodup ∧
      (∀ d, d ∈ fresh ↔ d ∈ deps ∧ d ∉ seen.keys) ∧
      ∀ d, d ∈ (await waiting seen deps).2.keys ↔ d ∈ seen.keys ∨ d ∈ deps := by
  induction deps generalizing waiting seen with
  | nil => exact ⟨[], by simp [await], .nil, by simp, by simp [await]⟩
  | cons dep deps ih =>
      rw [await]
      by_cases known : dep ∈ seen.keys
      · rw [if_pos (Dictionary.contains_iff.mpr known)]
        obtain ⟨fresh, waits, distinct, new, seen'⟩ := ih waiting seen
        refine ⟨fresh, waits, distinct, fun d => ?_, fun d => ?_⟩
        · grind
        · grind
      · rw [if_neg (fun h => known (Dictionary.contains_iff.mp h))]
        obtain ⟨fresh, waits, distinct, new, seen'⟩ := ih (waiting ++ [dep]) (seen.add dep)
        simp only [Directories.add, Dictionary.mem_keys_insert, not_or] at new seen'
        refine ⟨dep :: fresh, by simp [waits], List.nodup_cons.mpr ⟨?_, distinct⟩, fun d => ?_,
          fun d => ?_⟩
        · grind
        · grind
        · rw [Directories.add, seen']
          grind

/-- What holds **while declarations are loaded**, of the directories that wait, those that were
seen, and what has been loaded. -/
structure Loading (waiting : List String) (seen : Directories) (loaded : Dictionary TaskSettings) :
    Prop where
  distinct : waiting.Nodup
  seen_iff : ∀ d, d ∈ seen.keys ↔ d ∈ waiting ∨ d ∈ loaded.keys
  apart : ∀ d ∈ waiting, d ∉ loaded.keys
  closed : ∀ d settings, loaded.get? d = some settings →
    ∀ dep ∈ settings.dependencies, dep ∈ seen.keys

/-- Loading a directory keeps what holds. -/
theorem Loading.step {dir : String} {waiting : List String} {seen : Directories}
    {loaded : Dictionary TaskSettings} (h : Loading (dir :: waiting) seen loaded)
    (settings : TaskSettings) :
    Loading (await waiting seen settings.dependencies).1
      (await waiting seen settings.dependencies).2
      (loaded.insert dir settings) := by
  obtain ⟨fresh, waits, distinct, new, seen'⟩ := await_eq waiting seen settings.dependencies
  obtain ⟨first, distinct'⟩ := List.nodup_cons.mp h.distinct
  rw [waits]
  refine ⟨?_, fun d => ?_, fun d mem => ?_, fun d other found dep mem => ?_⟩
  · refine distinct'.append distinct ?_
    intro d old mem
    have seen : d ∈ seen.keys := (h.seen_iff d).mpr (.inl (List.mem_cons_of_mem _ old))
    exact ((new d).mp mem).2 seen
  · rw [seen', h.seen_iff, Dictionary.mem_keys_insert]
    have := new d
    have := h.seen_iff d
    grind
  · rw [Dictionary.mem_keys_insert]
    have := new d
    have := h.seen_iff d
    have := h.seen_iff dir
    have := h.apart d
    grind
  · rw [seen']
    rw [Dictionary.get?_insert] at found
    split at found
    · cases found
      exact .inr mem
    · exact .inl (h.closed d other found dep mem)

/-! ### What is loaded -/

/-- The code host's answer to what the **file of a directory** holds at the head commit. -/
def fileRead (r : Resolved) (dir : String) (reply : Except HostError (List UInt8)) : Event :=
  .host r.token (.getFile r.fork.name r.head.sha (declarationPath dir)) reply

/-- In the course of what happened, the code host gave a file for the directory that **declares**
the settings. -/
def Declares (r : Resolved) (tr : Trace) (dir : String) (settings : TaskSettings) : Prop :=
  ∃ bytes, fileRead r dir (.ok bytes) ∈ tr ∧
    TaskDeclaration.parse r.config (Text.ofBytes bytes) = .ok settings

theorem fileRead_inj {dir dir' : String} {reply reply' : Except HostError (List UInt8)} :
    fileRead r dir reply = fileRead r dir' reply' ↔ dir = dir' ∧ reply = reply' := by
  constructor
  · intro h
    injection h with _ same same'
    injection same with _ _ path
    exact ⟨declarationPath_injective path, same'⟩
  · rintro ⟨rfl, rfl⟩
    rfl

theorem declares_cons {dir dir' : String} {bytes : List UInt8} {settings : TaskSettings} :
    Declares r (fileRead r dir (.ok bytes) :: tr) dir' settings ↔
      (dir' = dir ∧ TaskDeclaration.parse r.config (Text.ofBytes bytes) = .ok settings) ∨
        Declares r tr dir' settings := by
  simp only [Declares, List.mem_cons, fileRead_inj, Except.ok.injEq]
  constructor
  · rintro ⟨bytes', ⟨rfl, rfl⟩ | mem, parsed⟩
    · exact .inl ⟨rfl, parsed⟩
    · exact .inr ⟨bytes', mem, parsed⟩
  · rintro (⟨rfl, parsed⟩ | ⟨bytes', mem, parsed⟩)
    · exact ⟨bytes, .inl ⟨rfl, rfl⟩, parsed⟩
    · exact ⟨bytes', .inr mem, parsed⟩

/-- Where no file of a directory is read, nothing more is declared. -/
theorem declares_append {tr' : Trace} {dir : String} {settings : TaskSettings}
    (silent : ∀ dir reply, fileRead r dir reply ∉ tr') :
    (Declares r (tr ++ tr') dir settings ↔ Declares r tr dir settings) ∧
      (Declares r (tr' ++ tr) dir settings ↔ Declares r tr dir settings) := by
  simp [Declares, silent]

/-- One directory **depends on** another by its declaration. -/
def DependsOn (loaded : Dictionary TaskSettings) (d e : String) : Prop :=
  ∃ settings, loaded.get? d = some settings ∧ e ∈ settings.dependencies

/-- A directory is loaded by asking for its file. -/
theorem loadOne_ok {dir : String} {settings : TaskSettings}
    (h : (loadOne r dir).Ends s tr (.ok settings) s') :
    s' = s ∧ ∃ bytes, tr = [fileRead r dir (.ok bytes)] ∧
      TaskDeclaration.parse r.config (Text.ofBytes bytes) = .ok settings := by
  obtain ⟨reply, rest, rfl, last⟩ := Program.ends_host.mp h
  cases reply with
  | error e =>
      obtain ⟨-, impossible, -⟩ := Program.ends_done.mp last
      cases impossible
  | ok bytes =>
      obtain ⟨rfl, parsed, rfl⟩ := Program.ends_done.mp last
      exact ⟨rfl, bytes, rfl, parsed.symm⟩

/-- What **comes out** when the waiting directories are loaded, and what they depend on. -/
structure Outcome (r : Resolved) (tr : Trace) (waiting : List String)
    (loaded final : Dictionary TaskSettings) : Prop where
  declared : ∀ d settings, final.get? d = some settings ↔
    loaded.get? d = some settings ∨ Declares r tr d settings
  reached : ∀ d, d ∈ waiting ∨ d ∈ loaded.keys → d ∈ final.keys
  closed : ∀ d e, DependsOn final d e → e ∈ final.keys
  needed : ∀ d ∈ final.keys, d ∈ loaded.keys ∨ Needed (· ∈ waiting) (DependsOn final) d

/-- Where nothing waits, everything has been loaded. -/
theorem Loading.done {seen : Directories} {loaded : Dictionary TaskSettings}
    (h : Loading [] seen loaded) : Outcome r [] [] loaded loaded where
  declared d settings := by simp [Declares]
  reached d mem := by simpa using mem
  closed := by
    rintro d e ⟨settings, found, mem⟩
    simpa using (h.seen_iff e).mp (h.closed d settings found e mem)
  needed d mem := .inl mem

/-- What comes out after one directory more has been loaded. -/
theorem Outcome.cons {dir : String} {waiting : List String} {seen : Directories}
    {loaded final : Dictionary TaskSettings} {settings : TaskSettings} {bytes : List UInt8}
    (state : Loading (dir :: waiting) seen loaded)
    (parsed : TaskDeclaration.parse r.config (Text.ofBytes bytes) = .ok settings)
    (h : Outcome r tr (await waiting seen settings.dependencies).1 (loaded.insert dir settings)
      final) :
    Outcome r (fileRead r dir (.ok bytes) :: tr) (dir :: waiting) loaded final := by
  obtain ⟨fresh, waits, -, new, -⟩ := await_eq waiting seen settings.dependencies
  have free : loaded.get? dir = none := by
    cases found : loaded.get? dir with
    | none => rfl
    | some settings' =>
        exact absurd (Dictionary.mem_keys.mpr ⟨settings', found⟩)
          (state.apart dir List.mem_cons_self)
  have own : final.get? dir = some settings := by
    rw [h.declared, Dictionary.get?_insert, if_pos rfl]
    exact .inl rfl
  rw [waits] at h
  refine ⟨fun d settings' => ?_, fun d mem => h.reached d ?_, h.closed, fun d mem => ?_⟩
  · rw [h.declared, Dictionary.get?_insert, declares_cons]
    by_cases same : dir = d
    · subst same
      rw [if_pos rfl, free, parsed]
      simp
    · rw [if_neg same]
      simp [Ne.symm same]
  · rw [Dictionary.mem_keys_insert, List.mem_append]
    simp only [List.mem_cons] at mem
    grind
  · rcases h.needed d mem with known | later
    · rw [Dictionary.mem_keys_insert] at known
      rcases known with rfl | known
      · exact .inr (.start List.mem_cons_self)
      · exact .inl known
    · refine .inr (later.trans fun e waiting' => ?_)
      rcases List.mem_append.mp waiting' with old | mem
      · exact .start (List.mem_cons_of_mem _ old)
      · have declared := ((new e).mp mem).1
        exact .needs (.start List.mem_cons_self) ⟨settings, own, declared⟩

theorem loadWaiting_ok {limit : Nat} {waiting : List String} {seen : Directories}
    {loaded final : Dictionary TaskSettings}
    (h : (loadWaiting r limit waiting seen loaded).Ends s tr (.ok final) s')
    (state : Loading waiting seen loaded) : Outcome r tr waiting loaded final := by
  induction limit generalizing waiting seen loaded s tr with
  | zero =>
      cases waiting with
      | nil =>
          rw [loadWaiting] at h
          obtain ⟨rfl, eq, rfl⟩ := Program.ends_done.mp h
          cases eq
          exact state.done
      | cons dir waiting => exact absurd h Program.not_ends_overrun
  | succ limit ih =>
      cases waiting with
      | nil =>
          rw [loadWaiting] at h
          obtain ⟨rfl, eq, rfl⟩ := Program.ends_done.mp h
          cases eq
          exact state.done
      | cons dir waiting =>
          rw [loadWaiting] at h
          obtain ⟨one, s₁, tr₁, tr₂, first, rest, rfl⟩ := Program.ends_bind.mp h
          cases one with
          | error e =>
              obtain ⟨-, impossible, -⟩ := Program.ends_done.mp rest
              cases impossible
          | ok settings =>
              obtain ⟨rfl, bytes, rfl, parsed⟩ := loadOne_ok first
              exact (ih rest (state.step settings)).cons state parsed

/-- **What has been loaded** in the end: exactly what the code host gave, for the least set of
directories that contains the selected ones and those that its members depend on. -/
theorem load_ok {limit : Nat} {selected : Directories} {loaded : Dictionary TaskSettings}
    (h : (load limit r selected).Ends s tr (.ok loaded) s') :
    (∀ d settings, loaded.get? d = some settings ↔ Declares r tr d settings) ∧
      ∀ d, d ∈ loaded.keys ↔ Needed (· ∈ selected.keys) (DependsOn loaded) d := by
  obtain ⟨one, s₁, tr₁, tr₂, first, rest, rfl⟩ := Program.ends_bind.mp h
  cases one with
  | error e =>
      obtain ⟨-, impossible, -⟩ := Program.ends_done.mp rest
      cases impossible
  | ok final =>
      obtain ⟨rfl, checked, rfl⟩ := Program.ends_done.mp rest
      obtain rfl : loaded = final := by
        rw [checkCycle] at checked
        split at checked
        · cases checked
        · exact Except.ok.inj checked
      have state : Loading selected.keys selected .empty :=
        ⟨selected.nodup_keys, by simp, by simp, by simp⟩
      have out := loadWaiting_ok first state
      rw [List.append_nil]
      refine ⟨fun d settings => by simp [out.declared], fun d => ⟨fun mem => ?_, fun need => ?_⟩⟩
      · exact (out.needed d mem).resolve_left Dictionary.notMem_keys_empty
      · induction need with
        | start selected => exact out.reached _ (.inl selected)
        | needs _ depends => exact out.closed _ _ depends

/-! ### What loading calls -/

/-- A call for the file that declares the task of some directory, as it is at the head commit. -/
def AsksForDeclaration (r : Resolved) (call : HostCall) : Prop :=
  ∃ dir, call = .getFile r.fork.name r.head.sha (declarationPath dir)

theorem makes_load {P : StoreCall → Prop} {Q : String → HostCall → Prop}
    {N : Notification → Prop}
    (reads : ∀ dir, Q r.token (.getFile r.fork.name r.head.sha (declarationPath dir)))
    (limit : Nat) (selected : Directories) : (load limit r selected).Makes P Q N := by
  have waiting (limit : Nat) : ∀ (waiting : List String) (seen : Directories)
      (loaded : Dictionary TaskSettings),
        (loadWaiting r limit waiting seen loaded).Makes P Q N := by
    induction limit with
    | zero => rintro (_ | _) _ _ <;> trivial
    | succ limit ih =>
        rintro (_ | ⟨dir, waiting⟩) seen loaded
        · trivial
        · refine Program.Makes.bind ⟨reads dir, fun reply => by cases reply <;> trivial⟩ ?_
          rintro (e | settings)
          · trivial
          · exact ih _ _ _
  refine Program.Makes.bind (waiting limit _ _ _) ?_
  rintro (e | loaded) <;> trivial

theorem asks_load (limit : Nat) (selected : Directories) :
    (load limit r selected).Asks StoreCall.IsLookup (AsksForDeclaration r) :=
  (makes_load (Q := fun _ => AsksForDeclaration r) (fun dir => ⟨dir, rfl⟩) limit selected).asks
    fun _ _ => id

/-- Loading leaves the **store** alone. -/
theorem load_store {limit : Nat} {selected : Directories} {loaded : Loaded}
    (h : (load limit r selected).Ends s tr loaded s') : s' = s :=
  h.store_eq (asks_load limit selected).calls

end Picking

end Dispatch
