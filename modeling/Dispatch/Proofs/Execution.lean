import Dispatch.Session.Basic

/-!
# Executions

What can happen when a program is carried out, whoever answers its calls. The code host may
answer at will, also differently to the same question. The store answers as it does, at any time
of day, but each call to it may also fail before it takes effect. The **trace** of an execution
lists what was called, in order, with the answers.

A session with its scripted code host and its listed failures is one of the surroundings that
this covers (`Session.perform_ends`), so what holds of all executions holds of those that run.

## Main definitions

* `Event`, `Trace`: what happens while a program is carried out.
* `Program.Ends`: a program, begun in a store, ends with a result and leaves a store.
* `Trace.faults`, `Trace.Faultless`: the calls to the store that failed before they took effect, and
  that there are none.

## Main results

* `Program.ends_bind`: an execution of a sequence is an execution of each part.
* `Operation.ends_bind`: the same for operations, where an error skips what follows.
* `Session.run_ends`: carrying a program out in a session is an execution, in which no more calls to
  the store fail than are to fail, and a code host without failures answers as scripted.
* `Session.perform_ends`, `Session.perform_limited`: the same for operations.
-/

namespace Dispatch

/-- An **event** of an execution. -/
inductive Event where
  | store (call : StoreCall) (reply : Except StoreError call.Reply)
  /-- A call to the store that failed before it took effect. -/
  | fault (call : StoreCall) (error : StoreError)
  | host (token : String) (call : HostCall) (reply : Except HostError call.Reply)
  | notice (notification : Notification)

/-- The **trace** of an execution: its events, the oldest first. -/
abbrev Trace := List Event

/-- The call to the store that **failed** before it took effect. -/
def Event.fault? : Event → Option StoreCall
  | .fault call _ => some call
  | _ => none

namespace Trace

/-- The calls to the store that **failed** before they took effect, the oldest first. -/
def faults (tr : Trace) : List StoreCall := tr.filterMap Event.fault?

@[simp] theorem faults_append {tr tr' : Trace} : (tr ++ tr').faults = tr.faults ++ tr'.faults :=
  List.filterMap_append

@[simp] theorem faults_fault {call : StoreCall} {e : StoreError} {tr : Trace} :
    faults (.fault call e :: tr) = call :: tr.faults := rfl

/-- No call to the store **failed before it took effect**. -/
def Faultless (tr : Trace) : Prop := ∀ call e, Event.fault call e ∉ tr

@[simp] theorem faultless_nil : Faultless [] := by
  simp [Faultless]

@[simp] theorem faultless_append {tr₁ tr₂ : Trace} :
    Faultless (tr₁ ++ tr₂) ↔ Faultless tr₁ ∧ Faultless tr₂ := by
  simp only [Faultless, List.mem_append, not_or]
  constructor
  · intro h
    exact ⟨fun c e => (h c e).1, fun c e => (h c e).2⟩
  · rintro ⟨first, second⟩ c e
    exact ⟨first c e, second c e⟩

@[simp] theorem faultless_store {call : StoreCall} {reply : Except StoreError call.Reply}
    {tr : Trace} : Faultless (.store call reply :: tr) ↔ Faultless tr := by
  simp [Faultless]

@[simp] theorem not_faultless_fault {call : StoreCall} {e : StoreError} {tr : Trace} :
    ¬ Faultless (.fault call e :: tr) := by
  intro h
  exact h call e List.mem_cons_self

@[simp] theorem faultless_host {token : String} {call : HostCall}
    {reply : Except HostError call.Reply} {tr : Trace} :
    Faultless (.host token call reply :: tr) ↔ Faultless tr := by
  simp [Faultless]

@[simp] theorem faultless_notice {n : Notification} {tr : Trace} :
    Faultless (.notice n :: tr) ↔ Faultless tr := by
  simp [Faultless]

end Trace

/-! ### Programs -/

namespace Program

variable {α β : Type}

/-- A program that begins in a store **ends** with a result, leaves a store, and what happens on
the way is the trace. A program that is cut off does not end. -/
inductive Ends : Program α → Store → Trace → α → Store → Prop
  | done (a : α) (s : Store) : Ends (.done a) s [] a s
  | store {call : StoreCall} {next : Except StoreError call.Reply → Program α} {s s' : Store}
      {tr : Trace} {a : α} (now : Timestamp) :
      Ends (next (call.run now s).1) (call.run now s).2 tr a s' →
      Ends (.store call next) s (.store call (call.run now s).1 :: tr) a s'
  | fault {call : StoreCall} {next : Except StoreError call.Reply → Program α} {s s' : Store}
      {tr : Trace} {a : α} (e : StoreError) :
      Ends (next (.error e)) s tr a s' → Ends (.store call next) s (.fault call e :: tr) a s'
  | host {token : String} {call : HostCall} {next : Except HostError call.Reply → Program α}
      {s s' : Store} {tr : Trace} {a : α} (reply : Except HostError call.Reply) :
      Ends (next reply) s tr a s' →
      Ends (.host token call next) s (.host token call reply :: tr) a s'
  | notify {n : Notification} {next : Program α} {s s' : Store} {tr : Trace} {a : α} :
      Ends next s tr a s' → Ends (.notify n next) s (.notice n :: tr) a s'

@[simp] theorem ends_done {a b : α} {s s' : Store} {tr : Trace} :
    (done a).Ends s tr b s' ↔ tr = [] ∧ b = a ∧ s' = s := by
  constructor
  · rintro ⟨⟩
    exact ⟨rfl, rfl, rfl⟩
  · rintro ⟨rfl, rfl, rfl⟩
    exact .done _ _

theorem ends_store {call : StoreCall} {next : Except StoreError call.Reply → Program α}
    {s s' : Store} {tr : Trace} {a : α} :
    (store call next).Ends s tr a s' ↔
      (∃ now rest, tr = .store call (call.run now s).1 :: rest ∧
        (next (call.run now s).1).Ends (call.run now s).2 rest a s') ∨
      ∃ e rest, tr = .fault call e :: rest ∧ (next (.error e)).Ends s rest a s' := by
  constructor
  · intro h
    cases h with
    | store now h => exact .inl ⟨now, _, rfl, h⟩
    | fault e h => exact .inr ⟨e, _, rfl, h⟩
  · rintro (⟨now, rest, rfl, h⟩ | ⟨e, rest, rfl, h⟩)
    · exact .store now h
    · exact .fault e h

theorem ends_host {token : String} {call : HostCall}
    {next : Except HostError call.Reply → Program α} {s s' : Store} {tr : Trace} {a : α} :
    (host token call next).Ends s tr a s' ↔
      ∃ reply rest, tr = .host token call reply :: rest ∧ (next reply).Ends s rest a s' := by
  constructor
  · intro h
    cases h with
    | host reply h => exact ⟨reply, _, rfl, h⟩
  · rintro ⟨reply, rest, rfl, h⟩
    exact .host reply h

theorem ends_notify {n : Notification} {next : Program α} {s s' : Store} {tr : Trace} {a : α} :
    (notify n next).Ends s tr a s' ↔ ∃ rest, tr = .notice n :: rest ∧ next.Ends s rest a s' := by
  constructor
  · intro h
    cases h with
    | notify h => exact ⟨_, rfl, h⟩
  · rintro ⟨rest, rfl, h⟩
    exact .notify h

@[simp] theorem not_ends_overrun {s s' : Store} {tr : Trace} {a : α} :
    ¬ (overrun : Program α).Ends s tr a s' := by
  rintro ⟨⟩

/-- **Sequences.** An execution of a sequence is one of the first part followed by one of the
second, from the store that the first leaves. -/
theorem ends_bind {p : Program α} {f : α → Program β} {s s'' : Store} {tr : Trace} {b : β} :
    (p.bind f).Ends s tr b s'' ↔
      ∃ a s' tr₁ tr₂, p.Ends s tr₁ a s' ∧ (f a).Ends s' tr₂ b s'' ∧ tr = tr₁ ++ tr₂ := by
  constructor
  · intro h
    induction p generalizing s tr with
    | done a => exact ⟨a, s, [], tr, .done a s, h, rfl⟩
    | store call next ih =>
        rcases ends_store.mp h with ⟨now, rest, rfl, later⟩ | ⟨e, rest, rfl, later⟩
        · obtain ⟨a, s', tr₁, tr₂, first, second, rfl⟩ := ih _ later
          exact ⟨a, s', _, tr₂, .store now first, second, rfl⟩
        · obtain ⟨a, s', tr₁, tr₂, first, second, rfl⟩ := ih _ later
          exact ⟨a, s', _, tr₂, .fault e first, second, rfl⟩
    | host token call next ih =>
        obtain ⟨reply, rest, rfl, later⟩ := ends_host.mp h
        obtain ⟨a, s', tr₁, tr₂, first, second, rfl⟩ := ih _ later
        exact ⟨a, s', _, tr₂, .host reply first, second, rfl⟩
    | notify n next ih =>
        obtain ⟨rest, rfl, later⟩ := ends_notify.mp h
        obtain ⟨a, s', tr₁, tr₂, first, second, rfl⟩ := ih later
        exact ⟨a, s', _, tr₂, .notify first, second, rfl⟩
    | overrun => exact absurd h not_ends_overrun
  · rintro ⟨a, s', tr₁, tr₂, first, second, rfl⟩
    induction first with
    | done => exact second
    | store now _ ih => exact .store now (ih second)
    | fault e _ ih => exact .fault e (ih second)
    | host reply _ ih => exact .host reply (ih second)
    | notify _ ih => exact .notify (ih second)

end Program

/-! ### Operations -/

namespace Operation

variable {α β : Type} {s s' s'' : Store} {tr : Trace}

/-- An operation that begins in a store **ends** with a value or an error and leaves a store. -/
def Ends (op : Operation α) (s : Store) (tr : Trace) (res : Except OperationError α)
    (s' : Store) : Prop :=
  Program.Ends op.run s tr res s'

@[simp] theorem ends_pure {a : α} {res : Except OperationError α} :
    Ends (pure a) s tr res s' ↔ tr = [] ∧ res = .ok a ∧ s' = s :=
  Program.ends_done

@[simp] theorem ends_fail {e : OperationError} {res : Except OperationError α} :
    Ends (fail e) s tr res s' ↔ tr = [] ∧ res = .error e ∧ s' = s :=
  Program.ends_done

/-- **Sequences of operations.** Either the first part ends with an error, and so does the
sequence, or it ends with a value and the second part follows. -/
theorem ends_bind {op : Operation α} {f : α → Operation β} {res : Except OperationError β} :
    Ends (op >>= f) s tr res s'' ↔
      (∃ e, Ends op s tr (.error e) s'' ∧ res = .error e) ∨
      ∃ a s' tr₁ tr₂, Ends op s tr₁ (.ok a) s' ∧ Ends (f a) s' tr₂ res s'' ∧
        tr = tr₁ ++ tr₂ := by
  have unfolded : Ends (op >>= f) s tr res s'' ↔
      ∃ r s' tr₁ tr₂, Ends op s tr₁ r s' ∧
        (ExceptT.bindCont f r).Ends s' tr₂ res s'' ∧ tr = tr₁ ++ tr₂ := Program.ends_bind
  rw [unfolded]
  constructor
  · rintro ⟨r, s', tr₁, tr₂, first, second, rfl⟩
    cases r with
    | ok a => exact .inr ⟨a, s', tr₁, tr₂, first, second, rfl⟩
    | error e =>
        obtain ⟨rfl, rfl, rfl⟩ := Program.ends_done.mp second
        exact .inl ⟨e, by simpa using first, rfl⟩
  · rintro (⟨e, first, rfl⟩ | ⟨a, s', tr₁, tr₂, first, second, rfl⟩)
    · exact ⟨.error e, s'', tr, [], first, .done _ _, by simp⟩
    · exact ⟨.ok a, s', tr₁, tr₂, first, second, rfl⟩

/-- A program without errors as part of an operation. -/
theorem ends_lift {p : Program α} {res : Except OperationError α} :
    Ends (ExceptT.lift p) s tr res s' ↔ ∃ a, p.Ends s tr a s' ∧ res = .ok a := by
  have unfolded : Ends (ExceptT.lift p) s tr res s' ↔
      ∃ a s₁ tr₁ tr₂, p.Ends s tr₁ a s₁ ∧
        (Program.done (.ok a)).Ends s₁ tr₂ res s' ∧ tr = tr₁ ++ tr₂ := Program.ends_bind
  rw [unfolded]
  constructor
  · rintro ⟨a, s₁, tr₁, tr₂, first, second, rfl⟩
    obtain ⟨rfl, rfl, rfl⟩ := Program.ends_done.mp second
    exact ⟨a, by simpa using first, rfl⟩
  · rintro ⟨a, h, rfl⟩
    exact ⟨a, s', tr, [], h, .done _ _, by simp⟩

/-- A call to the store either takes effect at some time of day or fails before. -/
theorem ends_tryStore {call : StoreCall}
    {res : Except OperationError (Except StoreError call.Reply)} :
    Ends (tryStore call) s tr res s' ↔
      (∃ now reply, call.run now s = (reply, s') ∧ res = .ok reply ∧ tr = [.store call reply]) ∨
      ∃ e, s' = s ∧ res = .ok (.error e) ∧ tr = [.fault call e] := by
  rw [tryStore, ends_lift]
  constructor
  · rintro ⟨reply, h, rfl⟩
    rcases Program.ends_store.mp h with ⟨now, rest, rfl, last⟩ | ⟨e, rest, rfl, last⟩
    · obtain ⟨rfl, rfl, rfl⟩ := Program.ends_done.mp last
      exact .inl ⟨now, _, rfl, rfl, rfl⟩
    · obtain ⟨rfl, rfl, rfl⟩ := Program.ends_done.mp last
      exact .inr ⟨e, rfl, rfl, rfl⟩
  · rintro (⟨now, reply, effect, rfl, rfl⟩ | ⟨e, rfl, rfl, rfl⟩)
    · obtain ⟨rfl, rfl⟩ : (call.run now s).1 = reply ∧ (call.run now s).2 = s' := by
        rw [effect]; exact ⟨rfl, rfl⟩
      exact ⟨_, .store now (.done _ _), rfl⟩
    · exact ⟨_, .fault e (.done _ _), rfl⟩

/-- A call to the store that the operation cannot do without. -/
theorem ends_store {call : StoreCall} {res : Except OperationError call.Reply} :
    Ends (store call) s tr res s' ↔
      (∃ now reply, call.run now s = (.ok reply, s') ∧ res = .ok reply ∧
        tr = [.store call (.ok reply)]) ∨
      (∃ now e, call.run now s = (.error e, s') ∧ res = .error (e : StoreError) ∧
        tr = [.store call (.error e)]) ∨
      ∃ e, s' = s ∧ res = .error (e : StoreError) ∧ tr = [.fault call e] := by
  rw [store, ends_bind]
  constructor
  · rintro (⟨e, h, rfl⟩ | ⟨reply, s₁, tr₁, tr₂, first, second, rfl⟩)
    · rcases ends_tryStore.mp h with ⟨_, _, _, h, _⟩ | ⟨_, _, h, _⟩ <;> cases h
    · rcases ends_tryStore.mp first with ⟨now, reply, effect, h, rfl⟩ | ⟨e, rfl, h, rfl⟩
      · cases h
        cases reply with
        | ok reply =>
            obtain ⟨rfl, rfl, rfl⟩ := ends_pure.mp second
            exact .inl ⟨now, reply, effect, rfl, rfl⟩
        | error e =>
            obtain ⟨rfl, rfl, rfl⟩ := ends_fail.mp second
            exact .inr (.inl ⟨now, e, effect, rfl, rfl⟩)
      · cases h
        obtain ⟨rfl, rfl, rfl⟩ := ends_fail.mp second
        exact .inr (.inr ⟨e, rfl, rfl, rfl⟩)
  · rintro (⟨now, reply, effect, rfl, rfl⟩ | ⟨now, e, effect, rfl, rfl⟩ | ⟨e, rfl, rfl, rfl⟩)
    · have called := ends_tryStore.mpr (.inl ⟨now, _, effect, rfl, rfl⟩)
      exact .inr ⟨_, s', _, [], called, ends_pure.mpr ⟨rfl, rfl, rfl⟩, by simp⟩
    · have called := ends_tryStore.mpr (.inl ⟨now, _, effect, rfl, rfl⟩)
      exact .inr ⟨_, s', _, [], called, ends_fail.mpr ⟨rfl, rfl, rfl⟩, by simp⟩
    · have failed : Ends (tryStore call) s' [.fault call e] (.ok (.error e)) s' :=
        ends_tryStore.mpr (.inr ⟨e, rfl, rfl, rfl⟩)
      exact .inr ⟨_, s', _, [], failed, ends_fail.mpr ⟨rfl, rfl, rfl⟩, by simp⟩

/-- The code host answers at will, and the store stays as it is. -/
theorem ends_tryHost {token : String} {call : HostCall}
    {res : Except OperationError (Except HostError call.Reply)} :
    Ends (tryHost token call) s tr res s' ↔
      ∃ reply, s' = s ∧ res = .ok reply ∧ tr = [.host token call reply] := by
  rw [tryHost, ends_lift]
  constructor
  · rintro ⟨reply, h, rfl⟩
    obtain ⟨reply, rest, rfl, last⟩ := Program.ends_host.mp h
    obtain ⟨rfl, rfl, rfl⟩ := Program.ends_done.mp last
    exact ⟨_, rfl, rfl, rfl⟩
  · rintro ⟨reply, rfl, rfl, rfl⟩
    exact ⟨reply, .host reply (.done _ _), rfl⟩

/-- A call to the code host that the operation cannot do without. -/
theorem ends_host {token : String} {call : HostCall} {res : Except OperationError call.Reply} :
    Ends (host token call) s tr res s' ↔
      (∃ reply, s' = s ∧ res = .ok reply ∧ tr = [.host token call (.ok reply)]) ∨
      ∃ e, s' = s ∧ res = .error (e : HostError) ∧ tr = [.host token call (.error e)] := by
  rw [host, ends_bind]
  constructor
  · rintro (⟨e, h, rfl⟩ | ⟨reply, s₁, tr₁, tr₂, first, second, rfl⟩)
    · obtain ⟨_, _, h, _⟩ := ends_tryHost.mp h
      cases h
    · obtain ⟨reply, rfl, h, rfl⟩ := ends_tryHost.mp first
      cases h
      cases reply with
      | ok reply =>
          obtain ⟨rfl, rfl, rfl⟩ := ends_pure.mp second
          exact .inl ⟨reply, rfl, rfl, rfl⟩
      | error e =>
          obtain ⟨rfl, rfl, rfl⟩ := ends_fail.mp second
          exact .inr ⟨e, rfl, rfl, rfl⟩
  · rintro (⟨reply, rfl, rfl, rfl⟩ | ⟨e, rfl, rfl, rfl⟩)
    · exact .inr ⟨.ok reply, s', _, [], ends_tryHost.mpr ⟨_, rfl, rfl, rfl⟩,
        ends_pure.mpr ⟨rfl, rfl, rfl⟩, by simp⟩
    · exact .inr ⟨.error e, s', _, [], ends_tryHost.mpr ⟨_, rfl, rfl, rfl⟩,
        ends_fail.mpr ⟨rfl, rfl, rfl⟩, by simp⟩

theorem ends_notify {n : Notification} {res : Except OperationError Unit} :
    Ends (notify n) s tr res s' ↔ s' = s ∧ res = .ok () ∧ tr = [.notice n] := by
  rw [notify, ends_lift]
  constructor
  · rintro ⟨a, h, rfl⟩
    obtain ⟨rest, rfl, last⟩ := Program.ends_notify.mp h
    obtain ⟨rfl, rfl, rfl⟩ := Program.ends_done.mp last
    exact ⟨rfl, rfl, rfl⟩
  · rintro ⟨rfl, rfl, rfl⟩
    exact ⟨(), .notify (.done _ _), rfl⟩

/-- A stage ends as its operation does, with its name on an error. -/
theorem ends_stage {name : String} {op : Operation α} {res : Except OperationError α} :
    Ends (stage name op) s tr res s' ↔
      (∃ a, Ends op s tr (.ok a) s' ∧ res = .ok a) ∨
      ∃ e, Ends op s tr (.error e) s' ∧ res = .error (e.inStage name) := by
  have unfolded : Ends (stage name op) s tr res s' ↔ _ := Program.ends_bind
  rw [unfolded]
  constructor
  · rintro ⟨r, s₁, tr₁, tr₂, first, second, rfl⟩
    cases r with
    | ok a =>
        obtain ⟨rfl, rfl, rfl⟩ := Program.ends_done.mp second
        exact .inl ⟨a, by simpa [Ends] using first, rfl⟩
    | error e =>
        obtain ⟨rfl, rfl, rfl⟩ := Program.ends_done.mp second
        exact .inr ⟨e, by simpa [Ends] using first, rfl⟩
  · rintro (⟨a, h, rfl⟩ | ⟨e, h, rfl⟩)
    · exact ⟨.ok a, s', tr, [], h, .done _ _, by simp⟩
    · exact ⟨.error e, s', tr, [], h, .done _ _, by simp⟩

@[simp] theorem ends_ofDomain {r : Except DomainError α} {res : Except OperationError α} :
    Ends (ofDomain r) s tr res s' ↔
      tr = [] ∧ res = r.mapError (fun e => OperationError.ofCause (.domain e)) ∧ s' = s := by
  cases r with
  | ok a => exact ends_pure
  | error e => exact ends_fail

@[simp] theorem ends_ofConfig {r : Except ConfigError α} {res : Except OperationError α} :
    Ends (ofConfig r) s tr res s' ↔
      tr = [] ∧ res = r.mapError (fun e => OperationError.ofCause (.config e)) ∧ s' = s := by
  cases r with
  | ok a => exact ends_pure
  | error e => exact ends_fail

/-! ### Outcomes that are known

What comes before a result that is known: the rules above for values and for errors. -/

variable {a : α} {e : OperationError}

/-- A sequence ends with a value exactly if both parts do. -/
theorem ends_bind_ok {op : Operation α} {f : α → Operation β} {b : β} :
    Ends (op >>= f) s tr (.ok b) s'' ↔
      ∃ a s' tr₁ tr₂, Ends op s tr₁ (.ok a) s' ∧ Ends (f a) s' tr₂ (.ok b) s'' ∧
        tr = tr₁ ++ tr₂ := by
  rw [ends_bind]
  refine ⟨fun h => h.resolve_left ?_, .inr⟩
  rintro ⟨e, -, impossible⟩
  cases impossible

@[simp] theorem ends_lift_ok {p : Program α} : Ends (ExceptT.lift p) s tr (.ok a) s' ↔
    p.Ends s tr a s' := by
  rw [ends_lift]
  constructor
  · rintro ⟨b, h, eq⟩
    cases eq
    exact h
  · intro h
    exact ⟨a, h, rfl⟩

@[simp] theorem not_ends_lift_error {p : Program α} :
    ¬ Ends (ExceptT.lift p) s tr (.error e) s' := by
  intro h
  obtain ⟨_, _, impossible⟩ := ends_lift.mp h
  cases impossible

@[simp] theorem ends_attempt_ok {op : Operation α} {r : Except OperationError α} :
    Ends (attempt op) s tr (.ok r) s' ↔ Ends op s tr r s' :=
  ends_lift_ok

@[simp] theorem not_ends_attempt_error {op : Operation α} :
    ¬ Ends (attempt op) s tr (.error e) s' :=
  not_ends_lift_error

@[simp] theorem not_ends_tryStore_error {call : StoreCall} :
    ¬ Ends (tryStore call) s tr (.error e) s' :=
  not_ends_lift_error

@[simp] theorem not_ends_notify_error {n : Notification} :
    ¬ Ends (notify n) s tr (.error e) s' :=
  not_ends_lift_error

@[simp] theorem ends_stage_ok {name : String} {op : Operation α} :
    Ends (stage name op) s tr (.ok a) s' ↔ Ends op s tr (.ok a) s' := by
  rw [ends_stage]
  constructor
  · rintro (⟨b, h, eq⟩ | ⟨e, h, impossible⟩)
    · cases eq
      exact h
    · cases impossible
  · intro h
    exact .inl ⟨a, h, rfl⟩

@[simp] theorem ends_stage_error {name : String} {op : Operation α} :
    Ends (stage name op) s tr (.error e) s' ↔
      ∃ cause, Ends op s tr (.error cause) s' ∧ e = cause.inStage name := by
  rw [ends_stage]
  constructor
  · rintro (⟨b, h, impossible⟩ | ⟨cause, h, eq⟩)
    · cases impossible
    · cases eq
      exact ⟨cause, h, rfl⟩
  · rintro ⟨cause, h, rfl⟩
    exact .inr ⟨cause, h, rfl⟩

@[simp] theorem ends_ofDomain_ok {r : Except DomainError α} :
    Ends (ofDomain r) s tr (.ok a) s' ↔ tr = [] ∧ r = .ok a ∧ s' = s := by
  cases r with
  | ok b =>
      rw [ends_ofDomain]
      exact ⟨fun ⟨silent, eq, same⟩ => ⟨silent, by cases eq; rfl, same⟩,
        fun ⟨silent, eq, same⟩ => ⟨silent, by cases eq; rfl, same⟩⟩
  | error e =>
      rw [ends_ofDomain]
      exact ⟨fun ⟨_, eq, _⟩ => (nomatch eq), fun ⟨_, eq, _⟩ => (nomatch eq)⟩

@[simp] theorem ends_ofConfig_ok {r : Except ConfigError α} :
    Ends (ofConfig r) s tr (.ok a) s' ↔ tr = [] ∧ r = .ok a ∧ s' = s := by
  cases r with
  | ok b =>
      rw [ends_ofConfig]
      exact ⟨fun ⟨silent, eq, same⟩ => ⟨silent, by cases eq; rfl, same⟩,
        fun ⟨silent, eq, same⟩ => ⟨silent, by cases eq; rfl, same⟩⟩
  | error e =>
      rw [ends_ofConfig]
      exact ⟨fun ⟨_, eq, _⟩ => (nomatch eq), fun ⟨_, eq, _⟩ => (nomatch eq)⟩

@[simp] theorem ends_host_ok {token : String} {call : HostCall} {reply : call.Reply} :
    Ends (host token call) s tr (.ok reply) s' ↔
      tr = [.host token call (.ok reply)] ∧ s' = s := by
  rw [ends_host]
  constructor
  · rintro (⟨reply', rfl, eq, rfl⟩ | ⟨e, rfl, impossible, rfl⟩)
    · cases eq
      exact ⟨rfl, rfl⟩
    · cases impossible
  · rintro ⟨rfl, rfl⟩
    exact .inl ⟨reply, rfl, rfl, rfl⟩

theorem ends_store_ok {call : StoreCall} {reply : call.Reply} :
    Ends (store call) s tr (.ok reply) s' ↔
      ∃ now, call.run now s = (.ok reply, s') ∧ tr = [.store call (.ok reply)] := by
  rw [ends_store]
  constructor
  · rintro (⟨now, reply', effect, eq, rfl⟩ | ⟨_, e, _, impossible, _⟩ | ⟨e, _, impossible, _⟩)
    · cases eq
      exact ⟨now, effect, rfl⟩
    · cases impossible
    · cases impossible
  · rintro ⟨now, effect, rfl⟩
    exact .inl ⟨now, reply, effect, rfl, rfl⟩

/-- The store refuses a call, or the call fails before it takes effect. -/
theorem ends_store_error {call : StoreCall} :
    Ends (store call) s tr (.error e) s' ↔ ∃ cause : StoreError, e = cause ∧
      ((∃ now, call.run now s = (.error cause, s') ∧ tr = [.store call (.error cause)]) ∨
        s' = s ∧ tr = [.fault call cause]) := by
  rw [ends_store]
  constructor
  · rintro (⟨_, _, _, impossible, _⟩ | ⟨now, cause, effect, eq, rfl⟩ | ⟨cause, rfl, eq, rfl⟩)
    · cases impossible
    · cases eq
      exact ⟨cause, rfl, .inl ⟨now, effect, rfl⟩⟩
    · cases eq
      exact ⟨cause, rfl, .inr ⟨rfl, rfl⟩⟩
  · rintro ⟨cause, rfl, ⟨now, effect, rfl⟩ | ⟨rfl, rfl⟩⟩
    · exact .inr (.inl ⟨now, cause, effect, rfl, rfl⟩)
    · exact .inr (.inr ⟨cause, rfl, rfl, rfl⟩)

end Operation

/-! ### Sessions -/

namespace StoreFault

/-- How many calls are yet to **fail**, where each failure happens only so many times. -/
def allowance : List StoreFault → Option Nat
  | [] => some 0
  | f :: rest => do
    let times ← f.times
    let others ← allowance rest
    return times + others

/-- A call that fails uses up **one** of the failures. -/
theorem strike_allowance (call : StoreCall) {faults : List StoreFault} {n : Nat}
    (h : allowance faults = some n) :
    ∃ m, allowance (strike call faults).2 = some m ∧
      m + (if (strike call faults).1.isSome then 1 else 0) = n := by
  induction faults generalizing n with
  | nil => exact ⟨n, h, rfl⟩
  | cons f rest ih =>
      simp only [allowance, Option.bind_eq_bind, Option.bind_eq_some_iff, Option.pure_def,
        Option.some_inj] at h
      obtain ⟨times, limited, others, allowed, rfl⟩ := h
      obtain ⟨m, left, spent⟩ := ih allowed
      rw [strike]
      by_cases passes : (f.concerns call && 0 < f.skip) = true
      · rw [if_pos passes]
        exact ⟨times + m, by simp [allowance, limited, left], by simp only; omega⟩
      · rw [if_neg passes]
        by_cases strikes : (f.concerns call && f.times ≠ some 0) = true
        · have positive : times ≠ 0 := by
            rintro rfl
            simp [limited] at strikes
          rw [if_pos strikes]
          refine ⟨times - 1 + others, by simp [allowance, limited, allowed], ?_⟩
          simp only [Option.isSome_some, if_true]
          omega
        · rw [if_neg strikes]
          exact ⟨times + m, by simp [allowance, limited, left], by simp only; omega⟩

end StoreFault

namespace Session

/-- Where nothing is to fail at the code host, it answers what its script says. -/
theorem answerHost_eq {token : String} {call : HostCall} {σ : Session}
    (silent : σ.host.faults = []) : answerHost token call σ =
      (σ.host.lookUp call, { σ with calls := call.record token :: σ.calls }) := by
  rw [answerHost, HostScript.answer, silent, HostFault.strike?]

/-- Carrying a program out in a session is an **execution** of it. Where nothing is to fail in the
store, nothing does, and where so many calls are to fail, no more do. Where nothing is to fail at
the code host, it answers as scripted. -/
theorem run_ends {α : Type} {p : Program α} {σ σ' : Session} {a : α}
    (h : p.run surroundings σ = some (a, σ')) :
    ∃ tr, p.Ends σ.store tr a σ'.store ∧
      (σ.faults = [] → σ'.faults = [] ∧ Trace.Faultless tr) ∧
      (∀ n, StoreFault.allowance σ.faults = some n → tr.faults.length ≤ n) ∧
      (σ.host.faults = [] → σ'.host = σ.host ∧
        ∀ token call reply, Event.host token call reply ∈ tr → reply = σ.host.lookUp call) := by
  induction p generalizing σ with
  | done b =>
      obtain ⟨rfl, rfl⟩ : b = a ∧ σ = σ' := by simpa [Program.run] using h
      exact ⟨[], .done _ _, fun none => ⟨none, Trace.faultless_nil⟩, fun n _ => n.zero_le,
        fun _ => ⟨rfl, by simp⟩⟩
  | store call next ih =>
      change (next (answerStore call σ).1).run surroundings (answerStore call σ).2 = _ at h
      rcases struck : StoreFault.strike call σ.faults with ⟨_ | e, faults⟩
      · have answer : answerStore call σ = ((call.run σ.now σ.store).1,
            { σ with faults, store := (call.run σ.now σ.store).2 }) := by
          rw [answerStore, struck]; rfl
        rw [answer] at h
        obtain ⟨tr, ends, faultless, limited, scripted⟩ := ih _ h
        refine ⟨_, .store σ.now ends, fun none => ?_, fun n allowed => ?_, fun silent => ?_⟩
        · rw [none, StoreFault.strike] at struck
          obtain rfl : [] = faults := congrArg Prod.snd struck
          simpa using faultless rfl
        · obtain ⟨m, left, spent⟩ := StoreFault.strike_allowance call allowed
          rw [struck] at left spent
          exact spent ▸ limited m left
        · simpa using scripted silent
      · have answer : answerStore call σ = (.error e, { σ with faults }) := by
          rw [answerStore, struck]
        rw [answer] at h
        obtain ⟨tr, ends, -, limited, scripted⟩ := ih _ h
        refine ⟨_, .fault e ends, fun none => ?_, fun n allowed => ?_, fun silent => by
          simpa using scripted silent⟩
        · rw [none, StoreFault.strike] at struck
          cases struck
        · obtain ⟨m, left, spent⟩ := StoreFault.strike_allowance call allowed
          rw [struck] at left spent
          exact spent ▸ Nat.succ_le_succ (limited m left)
  | host token call next ih =>
      change (next (answerHost token call σ).1).run surroundings (answerHost token call σ).2 = _
        at h
      obtain ⟨tr, ends, faultless, limited, scripted⟩ := ih _ h
      refine ⟨_, .host _ ends, fun none => by simpa using faultless none, limited,
        fun silent => ?_⟩
      rw [answerHost_eq silent] at scripted ⊢
      obtain ⟨same, answers⟩ := scripted silent
      refine ⟨same, fun token' call' reply mem => ?_⟩
      rcases List.mem_cons.mp mem with eq | later
      · injection eq with _ eq heq
        subst eq
        exact eq_of_heq heq
      · exact answers token' call' reply later
  | notify n next ih =>
      obtain ⟨tr, ends, faultless, limited, scripted⟩ := ih
        (σ := { σ with channel := σ.channel.offer n })
        (by simpa [Program.run, surroundings] using h)
      exact ⟨_, .notify ends, fun none => by simpa using faultless none, limited,
        fun silent => by simpa using scripted silent⟩
  | overrun => cases h

/-- Where nothing is to fail at the code host, it answers as scripted. -/
theorem run_scripted {α : Type} {p : Program α} {σ σ' : Session} {a : α}
    (h : p.run surroundings σ = some (a, σ')) :
    ∃ tr, p.Ends σ.store tr a σ'.store ∧
      (σ.faults = [] → σ'.faults = [] ∧ Trace.Faultless tr) ∧
      (σ.host.faults = [] → σ'.host = σ.host ∧
        ∀ token call reply, Event.host token call reply ∈ tr → reply = σ.host.lookUp call) := by
  obtain ⟨tr, ends, faultless, -, scripted⟩ := run_ends h
  exact ⟨tr, ends, faultless, scripted⟩

/-- Carrying an operation out in a session is an execution of it. -/
theorem perform_ends {α : Type} {op : Operation α} {σ σ' : Session}
    {res : Except OperationError α} (h : perform op σ = some (res, σ')) :
    ∃ tr, op.Ends σ.store tr res σ'.store ∧
      (σ.faults = [] → σ'.faults = [] ∧ Trace.Faultless tr) := by
  obtain ⟨tr, ends, faultless, -⟩ := run_ends h
  exact ⟨tr, ends, faultless⟩

/-- Where so many calls to the store are to fail, no more do. -/
theorem perform_limited {α : Type} {op : Operation α} {σ σ' : Session}
    {res : Except OperationError α} {n : Nat} (h : perform op σ = some (res, σ'))
    (allowed : StoreFault.allowance σ.faults = some n) :
    ∃ tr, op.Ends σ.store tr res σ'.store ∧ tr.faults.length ≤ n := by
  obtain ⟨tr, ends, -, limited, -⟩ := run_ends h
  exact ⟨tr, ends, limited n allowed⟩

end Session

end Dispatch
