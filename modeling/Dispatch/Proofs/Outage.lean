import Dispatch.Proofs.BestEffort
import Dispatch.Proofs.Submission.Loading

/-!
# Outages of the code host

Calls to the code host can fail although there is nothing wrong with what was asked: the request
does not get through, the answer cannot be understood, or the code host reports a failure of its
own. An operation breaks off at such an outage if an essential call that meets one is the last, and
its answer names a cause for it. What it does until then does not depend on outages to come.

Most calls hand the failure on as it is. Where a task declaration is read, it is taken for a fault
of the declaration.

## Main definitions

* `HostError.IsOutage`: a failure that says nothing about what was asked.
* `HostCall.blame`: the cause that is named for an outage.
* `Program.Halts`: nothing essential is left to do.
* `Program.Breaks`, `Operation.Breaks`: an outage ends the operation.
* `Environment.Hinders`: one environment is another one with outages.
* `Environment.MetOutage`: the last essential call met with an outage.

## Main results

* `HostCall.kind_blame`: how the cause that is named is classified.
* `Program.Breaks.run`: a run with outages is the one without, or breaks off at the first.
-/

namespace Dispatch

/-! ### Outages and their causes -/

/-- An **outage**: a failure that says nothing about what was asked. -/
def HostError.IsOutage : HostError → Prop
  | request _ | parse _ => True
  | api status _ => status ≠ 404
  | notFound _ | invalid _ => False

instance : DecidablePred HostError.IsOutage := fun e => by
  cases e <;> unfold HostError.IsOutage <;> infer_instance

namespace HostError

variable {e : HostError}

/-- It does not mean that there is **no such thing**. -/
theorem IsOutage.isNotFound_eq (h : e.IsOutage) : e.isNotFound = false := by
  cases e with
  | request | parse => rfl
  | api status message => exact decide_eq_false h
  | notFound | invalid => exact h.elim

theorem IsOutage.ofHost_eq (h : e.IsOutage) : ErrorKind.ofHost e = .internal := by
  cases e with
  | request | parse => rfl
  | api status message => exact if_neg (Bool.eq_false_iff.mp h.isNotFound_eq)
  | notFound | invalid => exact h.elim

end HostError

namespace HostCall

/-- A call for the contents of a **task declaration**, wherever it is. -/
def ReadsDeclaration : HostCall → Prop
  | getFile _ _ path => Selection.fileName path = TaskDeclaration.fileName
  | _ => False

instance : DecidablePred ReadsDeclaration := fun call => by
  cases call <;> unfold ReadsDeclaration <;> infer_instance

/-- The cause that is named for an outage of a call: the outage itself, but for a task declaration
that could not be read an **invalid value** in its place. -/
def blame (e : HostError) : HostCall → Cause
  | getFile _ _ path =>
    if Selection.fileName path = TaskDeclaration.fileName then
      .config (.invalidValue path e.message)
    else .host e
  | _ => .host e

variable {call : HostCall} {e : HostError}

theorem blame_of_not_reads (other : ¬ call.ReadsDeclaration) : call.blame e = .host e := by
  cases call with
  | getFile => exact if_neg other
  | _ => rfl

/-- Of all calls, those for task declarations alone are **not classified as internal**. -/
theorem kind_blame (outage : e.IsOutage) :
    (call.blame e).kind = if call.ReadsDeclaration then .invalid else .internal := by
  by_cases reads : call.ReadsDeclaration
  · cases call with
    | getFile repository revision path =>
        have name : Selection.fileName path = TaskDeclaration.fileName := reads
        rw [blame, if_pos name, if_pos reads, Cause.kind]
    | _ => exact reads.elim
  · rw [blame_of_not_reads reads, if_neg reads, Cause.kind, outage.ofHost_eq]

end HostCall

/-! ### Programs that break off -/

namespace Program

variable {α β : Type}

/-- **Nothing essential** is left to do before a result of the given kind. -/
def Halts (R : α → Prop) : Program α → Prop
  | done a => R a
  | store _ _ => False
  | host _ call next => ¬ call.IsEssential ∧ ∀ reply, (next reply).Halts R
  | notify _ next => next.Halts R
  | overrun => False

/-- An outage of an essential call **ends the program** with a result of the kind that goes with
the outage. -/
def Breaks (K : HostCall → HostError → α → Prop) : Program α → Prop
  | done _ => True
  | store _ next => ∀ reply, (next reply).Breaks K
  | host _ call next => (∀ reply, (next reply).Breaks K) ∧
    (call.IsEssential → ∀ e, e.IsOutage → (next (.error e)).Halts (K call e))
  | notify _ next => next.Breaks K
  | overrun => True

theorem Halts.bind {R : α → Prop} {R' : β → Prop} {p : Program α} {f : α → Program β}
    (first : p.Halts R) (second : ∀ a, R a → (f a).Halts R') : (p.bind f).Halts R' := by
  induction p with
  | done a => exact second a first
  | store call next => exact first.elim
  | host token call next ih => exact ⟨first.1, fun reply => ih reply (first.2 reply)⟩
  | notify n next ih => exact ih first
  | overrun => exact first.elim

/-- What has nothing essential left to do **cannot break off**. -/
theorem Halts.breaks {R : α → Prop} {K : HostCall → HostError → α → Prop} {p : Program α}
    (halts : p.Halts R) : p.Breaks K := by
  induction p with
  | done a => trivial
  | store call next => exact halts.elim
  | host token call next ih =>
      exact ⟨fun reply => ih reply (halts.2 reply), fun essential => absurd essential halts.1⟩
  | notify n next ih => exact ih halts
  | overrun => trivial

/-- What follows must **pass on** what an outage has ended with. -/
theorem Breaks.bind {K : HostCall → HostError → α → Prop} {K' : HostCall → HostError → β → Prop}
    {p : Program α} {f : α → Program β} (first : p.Breaks K)
    (passes : ∀ call e a, K call e a → (f a).Halts (K' call e))
    (second : ∀ a, (f a).Breaks K') : (p.bind f).Breaks K' := by
  induction p with
  | done a => exact second a
  | store call next ih => exact fun reply => ih reply (first reply)
  | host token call next ih =>
      exact ⟨fun reply => ih reply (first.1 reply), fun essential e outage =>
        (first.2 essential e outage).bind (passes call e)⟩
  | notify n next ih => exact ih first
  | overrun => trivial

/-- A program that makes no essential calls has nothing to break off for. -/
theorem Calls.breaks {P : StoreCall → Prop} {K : HostCall → HostError → α → Prop} {p : Program α}
    (calls : p.Calls P fun call => ¬ call.IsEssential) : p.Breaks K := by
  induction p with
  | done a => trivial
  | store call next ih => exact fun reply => ih reply (calls.2 reply)
  | host token call next ih =>
      exact ⟨fun reply => ih reply (calls.2 reply), fun essential => absurd essential calls.1⟩
  | notify n next ih => exact ih calls
  | overrun => trivial

end Program

/-! ### Operations that break off -/

namespace Operation

variable {α β : Type}

/-- A result for which an outage of a call is **to blame**. -/
def Blames (call : HostCall) (e : HostError) (res : Except OperationError α) : Prop :=
  ∃ failure, res = .error failure ∧ failure.cause = call.blame e

/-- An outage of an essential call **ends the operation** with the error that it is to blame
for. -/
def Breaks (op : Operation α) : Prop := Program.Breaks Blames op.run

theorem breaks_pure (a : α) : (pure a : Operation α).Breaks := trivial

theorem breaks_fail (e : OperationError) : (fail e : Operation α).Breaks := trivial

theorem Calls.breaks {P : StoreCall → Prop} {op : Operation α}
    (calls : op.Calls P fun call => ¬ call.IsEssential) : op.Breaks :=
  Program.Calls.breaks calls

/-- An operation that makes no calls to the code host has nothing to break off for. -/
theorem Makes.breaks {op : Operation α}
    (h : op.Makes (fun _ => True) (fun _ _ => False) fun _ => True) : op.Breaks :=
  Calls.breaks (h.calls fun _ _ => False.elim)

theorem breaks_store (call : StoreCall) : (store call).Breaks :=
  Makes.breaks (makes_store trivial)

theorem breaks_bind {op : Operation α} {f : α → Operation β} (first : op.Breaks)
    (second : ∀ a, (f a).Breaks) : (op >>= f).Breaks := by
  refine Program.Breaks.bind first ?_ fun
    | .ok a => second a
    | .error _ => trivial
  rintro call e _ ⟨failure, rfl, cause⟩
  exact ⟨failure, rfl, cause⟩

theorem breaks_stage {name : String} {op : Operation α} (h : op.Breaks) :
    (stage name op).Breaks := by
  refine Program.Breaks.bind h ?_ fun
    | .ok _ => trivial
    | .error _ => trivial
  rintro call e _ ⟨failure, rfl, cause⟩
  exact ⟨failure.inStage name, rfl, cause⟩

/-- A program **within** an operation may end with a result of its own, on which the operation
fails. -/
theorem breaks_lift {K : HostCall → HostError → β → Prop} {p : Program β} {f : β → Operation α}
    (first : p.Breaks K) (fails : ∀ call e b, K call e b → Program.Halts (Blames call e) (f b).run)
    (second : ∀ b, (f b).Breaks) : Breaks (ExceptT.lift p >>= f) := by
  have lifted : Program.Breaks (fun call e res => ∃ b, res = .ok b ∧ K call e b)
      (ExceptT.lift p : Operation β).run :=
    Program.Breaks.bind first (fun call e b ended => ⟨b, rfl, ended⟩) fun _ => trivial
  refine Program.Breaks.bind lifted ?_ fun
    | .ok b => second b
    | .error _ => trivial
  rintro call e _ ⟨b, rfl, ended⟩
  exact fails call e b ended

/-- What is made of the **answer to one call**. -/
theorem breaks_tryHost {token : String} {call : HostCall}
    {f : Except HostError call.Reply → Operation α}
    (fails : ∀ e, e.IsOutage → Program.Halts (Blames call e) (f (.error e)).run)
    (second : ∀ reply, (f reply).Breaks) : (tryHost token call >>= f).Breaks := by
  have asked : Program.Breaks (fun call' e res => call' = call ∧ e.IsOutage ∧ res = .error e)
      (Program.host token call .done) :=
    ⟨fun _ => trivial, fun _ e outage => ⟨rfl, outage, rfl⟩⟩
  refine breaks_lift asked ?_ second
  rintro _ e _ ⟨rfl, outage, rfl⟩
  exact fails e outage

/-- A call whose failure is **passed on**. If it is not for a file, the condition holds by
definition. -/
theorem breaks_host {token : String} {call : HostCall} (other : ¬ call.ReadsDeclaration) :
    (host token call).Breaks :=
  breaks_tryHost (fun e _ => ⟨e, rfl, (HostCall.blame_of_not_reads other).symm⟩) fun
    | .ok _ => trivial
    | .error _ => trivial

end Operation

/-! ### Services with outages -/

namespace Environment

variable {η : Type} {env env' : Environment η}

/-- One environment **hinders** what another one does not: its calls to the code host may meet with
outages, and everything else is the same. -/
structure Hinders (env' env : Environment η) : Prop where
  store : env'.store = env.store
  host (token : String) (call : HostCall) (outside : η) :
    env'.host token call outside = env.host token call outside ∨
      ∃ e, e.IsOutage ∧ (env'.host token call outside).1 = .error e

theorem Hinders.answerStore (h : env'.Hinders env) (call : StoreCall) (k : Core η) :
    env'.answerStore call k = env.answerStore call k := by
  rw [Environment.answerStore, Environment.answerStore, h.store]

/-- A best-effort call leaves **the core** as it is. -/
theorem host_bestEffort (env : Environment η) (c : Circumstances) (token : String)
    {call : HostCall} (other : ¬ call.IsEssential) (σ : Service η) :
    ((env.surroundings c).host token call σ).2.core = σ.core := by
  obtain ⟨reply, answer⟩ := HostCall.tried?_of_not_essential other
    (c.failure (σ.turn c env.address).tried.length)
  simp only [surroundings, answer, Service.record_core, Service.turn_core]

/-- An essential call is answered by **the environment**. -/
theorem host_essential (env : Environment η) (c : Circumstances) (token : String)
    {call : HostCall} (essential : call.IsEssential) (σ : Service η) :
    ((env.surroundings c).host token call σ).1 = (env.answerHost token call σ.core).1 ∧
      ((env.surroundings c).host token call σ).2.core = (env.answerHost token call σ.core).2 := by
  simp only [surroundings, HostCall.tried?_of_essential essential, Service.turn_core, and_self]

/-- The last of the essential calls **met with an outage**. -/
def MetOutage (env : Environment η) (call : HostCall) (e : HostError) (k : Core η) : Prop :=
  e.IsOutage ∧ ∃ token outside, k.asked.getLast? = some (token, call) ∧
    (env.host token call outside).1 = .error e

end Environment

namespace Program

open Environment

variable {α η : Type} {env env' : Environment η} {c : Circumstances}

/-- A program that has nothing essential left to do **comes to its end**, and touches nothing but
what concerns best-effort calls. -/
theorem Halts.run {R : α → Prop} {p : Program α} (halts : p.Halts R) (env : Environment η)
    (c : Circumstances) (σ : Service η) :
    ∃ a σ', p.run (env.surroundings c) σ = some (a, σ') ∧ R a ∧ σ'.core = σ.core := by
  induction p generalizing σ with
  | done a => exact ⟨a, σ, rfl, halts, rfl⟩
  | store call next => exact halts.elim
  | host token call next ih =>
      obtain ⟨a, σ', run, result, same⟩ :=
        ih _ (halts.2 _) ((env.surroundings c).host token call σ).2
      exact ⟨a, σ', run, result, same.trans (host_bestEffort env c token halts.1 σ)⟩
  | notify n next ih =>
      have core : ((env.surroundings c).notify n σ).core = σ.core := by
        simp only [surroundings, Service.turn_core]
      obtain ⟨a, σ', run, result, same⟩ := ih halts ((env.surroundings c).notify n σ)
      exact ⟨a, σ', run, result, same.trans core⟩
  | overrun => exact halts.elim

/-- Two services whose cores are the same **go on alike**, until an essential call of one meets with
an outage; then that one ends with what goes with the outage, and the call is the last essential
one. -/
theorem Breaks.run {K : HostCall → HostError → α → Prop} {p : Program α} (breaks : p.Breaks K)
    (robust : p.Robust) (hinders : env'.Hinders env) (c' : Circumstances) {σ σ' τ : Service η}
    {a : α} (same : σ.core = τ.core) (h : p.run (env.surroundings c) σ = some (a, σ')) :
    ∃ b τ', p.run (env'.surroundings c') τ = some (b, τ') ∧
      ((b = a ∧ τ'.core = σ'.core) ∨
        ∃ call e, env'.MetOutage call e τ'.core ∧ K call e b) := by
  induction p generalizing σ τ with
  | done b =>
      obtain ⟨rfl, rfl⟩ : b = a ∧ σ = σ' := by simpa [Program.run] using h
      exact ⟨b, τ, rfl, .inl ⟨rfl, same.symm⟩⟩
  | store call next ih =>
      have equal : (σ.turn c env.address).core = (τ.turn c' env'.address).core := by
        rw [Service.turn_core, Service.turn_core, same]
      have answer : ((env'.surroundings c').store call τ).1 =
          ((env.surroundings c).store call σ).1 := by
        simp only [surroundings, hinders.answerStore, equal]
      have later : ((env.surroundings c).store call σ).2.core =
          ((env'.surroundings c').store call τ).2.core := by
        simp only [surroundings, hinders.answerStore, equal]
      rw [run_store] at h
      obtain ⟨b, τ', run, outcome⟩ := ih _ (breaks _) (robust _) later h
      refine ⟨b, τ', ?_, outcome⟩
      rw [run_store, answer, run]
  | host token call next ih =>
      rw [run_host] at h
      by_cases essential : call.IsEssential
      · obtain ⟨reply, core⟩ := host_essential env c token essential σ
        obtain ⟨reply', core'⟩ := host_essential env' c' token essential τ
        rcases hinders.host token call σ.core.outside with alike | ⟨e, outage, failed⟩
        · have answers : env'.answerHost token call τ.core = env.answerHost token call σ.core := by
            rw [← same, answerHost, answerHost, alike]
          have later : ((env.surroundings c).host token call σ).2.core =
              ((env'.surroundings c').host token call τ).2.core := by
            rw [core, core', answers]
          obtain ⟨b, τ', run, outcome⟩ := ih _ (breaks.1 _) (robust.2 _) later h
          refine ⟨b, τ', ?_, outcome⟩
          rw [run_host, reply', answers, ← reply, run]
        · -- The outage: whatever the environment goes on to remember, nothing comes to rest on it.
          have answer : ((env'.surroundings c').host token call τ).1 = .error e := by
            rw [reply', ← same]
            exact failed
          obtain ⟨b, τ', run, result, kept⟩ :=
            (breaks.2 essential e outage).run env' c' ((env'.surroundings c').host token call τ).2
          refine ⟨b, τ', ?_, .inr ⟨call, e, ⟨outage, token, σ.core.outside, ?_, failed⟩, result⟩⟩
          · rw [run_host, answer, run]
          · rw [kept, core']
            exact List.getLast?_concat
      · have later : ((env.surroundings c).host token call σ).2.core =
            ((env'.surroundings c').host token call τ).2.core := by
          rw [host_bestEffort env c token essential, host_bestEffort env' c' token essential, same]
        obtain ⟨b, τ', run, outcome⟩ := ih _ (breaks.1 _) (robust.2 _) later h
        refine ⟨b, τ', ?_, outcome⟩
        rw [run_host, robust.1 essential _ ((env.surroundings c).host token call σ).1, run]
  | notify n next ih =>
      have later : ((env.surroundings c).notify n σ).core =
          ((env'.surroundings c').notify n τ).core := by
        simp only [surroundings, Service.turn_core, same]
      obtain ⟨b, τ', run, outcome⟩ := ih breaks robust later h
      exact ⟨b, τ', run, outcome⟩
  | overrun => cases h

end Program

end Dispatch
