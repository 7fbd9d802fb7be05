import Dispatch.Proofs.Calls

/-!
# The conduct of a program

Which calls a program makes and under which credential, and what it hands over, whatever the
answers are. In surroundings that differ only in how they answer other calls, the program runs
alike. An execution can also be looked at before it has ended: how far it has come, and what is
left of the program.

## Main definitions

* `Program.Makes P Q N`, `Operation.Makes P Q N`: all calls to the store are of the kind `P`, all
  calls to the code host of the kind `Q`, and all notifications of the kind `N`.
* `Program.Yields R`, `Operation.Yields R`: the result is of the kind `R`.
* `Under`: calls of a kind, all under one credential.
* `Program.Reaches`: how far an execution has come.
* `Trace.asked`: what the code host was asked, and under which credentials.

## Main results

* `Program.Makes.run_eq`: a program runs alike wherever the calls that it makes are answered alike.
* `Program.reaches_bind`: how far an execution of a sequence has come.
* `Program.Reaches.asked`: what has been asked so far is of the kind that the program asks.
-/

namespace Dispatch

/-- Calls of a kind, all **under one credential**. -/
def Under (token : String) (K : HostCall → Prop) (token' : String) (call : HostCall) : Prop :=
  token' = token ∧ K call

/-- Whatever is handed over. -/
abbrev AnyNotice (_ : Notification) : Prop := True

/-- Nothing is handed over. -/
abbrev NoNotice (_ : Notification) : Prop := False

/-- Surroundings that **answer alike**, except for calls to the code host of another kind. -/
structure Surroundings.Alike {σ : Type} (w : Surroundings σ) (Q : String → HostCall → Prop)
    (w' : Surroundings σ) : Prop where
  store : w.store = w'.store
  notify : w.notify = w'.notify
  host : ∀ token call, Q token call → w.host token call = w'.host token call

theorem Surroundings.Alike.mono {σ : Type} {w w' : Surroundings σ}
    {Q Q' : String → HostCall → Prop} (h : w.Alike Q w')
    (fewer : ∀ token call, Q' token call → Q token call) : w.Alike Q' w' :=
  ⟨h.store, h.notify, fun token call kind => h.host token call (fewer token call kind)⟩

/-! ### Programs -/

namespace Program

variable {α β : Type} {P : StoreCall → Prop} {Q : String → HostCall → Prop}
  {N : Notification → Prop}

/-- All that a program calls and hands over is of the given kinds, whatever the answers are. -/
def Makes (P : StoreCall → Prop) (Q : String → HostCall → Prop) (N : Notification → Prop) :
    Program α → Prop
  | done _ => True
  | store call next => P call ∧ ∀ reply, (next reply).Makes P Q N
  | host token call next => Q token call ∧ ∀ reply, (next reply).Makes P Q N
  | notify n next => N n ∧ next.Makes P Q N
  | overrun => True

theorem Makes.mono {P' : StoreCall → Prop} {Q' : String → HostCall → Prop}
    {N' : Notification → Prop} (store : ∀ call, P call → P' call)
    (host : ∀ token call, Q token call → Q' token call) (notices : ∀ n, N n → N' n)
    {p : Program α} (h : p.Makes P Q N) : p.Makes P' Q' N' := by
  induction p with
  | done a => trivial
  | store call next ih => exact ⟨store _ h.1, fun reply => ih reply (h.2 reply)⟩
  | host token call next ih => exact ⟨host _ _ h.1, fun reply => ih reply (h.2 reply)⟩
  | notify n next ih => exact ⟨notices n h.1, ih h.2⟩
  | overrun => trivial

/-- A program that asks the code host nothing keeps to whatever it may ask. -/
theorem Calls.makes {p : Program α} (h : p.Calls P fun _ => False) : p.Makes P Q AnyNotice := by
  induction p with
  | done a => trivial
  | store call next ih => exact ⟨h.1, fun reply => ih reply (h.2 reply)⟩
  | host token call next ih => exact h.1.elim
  | notify n next ih => exact ⟨trivial, ih h⟩
  | overrun => trivial

/-- Without the credentials, this is what a program calls. -/
theorem Makes.calls {R : HostCall → Prop} {p : Program α} (h : p.Makes P Q N)
    (host : ∀ token call, Q token call → R call) : p.Calls P R := by
  induction p with
  | done a => trivial
  | store call next ih => exact ⟨h.1, fun reply => ih reply (h.2 reply)⟩
  | host token call next ih => exact ⟨host _ _ h.1, fun reply => ih reply (h.2 reply)⟩
  | notify n next ih => exact ih h.2
  | overrun => trivial

/-- If nothing is handed over, this is what a program asks. -/
theorem Makes.asks {R : HostCall → Prop} {p : Program α} (h : p.Makes P Q NoNotice)
    (host : ∀ token call, Q token call → R call) : p.Asks P R := by
  induction p with
  | done a => trivial
  | store call next ih => exact ⟨h.1, fun reply => ih reply (h.2 reply)⟩
  | host token call next ih => exact ⟨host _ _ h.1, fun reply => ih reply (h.2 reply)⟩
  | notify n next => exact h.1.elim
  | overrun => trivial

/-- Whatever the answers are, the **result** is of a kind. -/
def Yields (R : α → Prop) : Program α → Prop
  | done a => R a
  | store _ next => ∀ reply, (next reply).Yields R
  | host _ _ next => ∀ reply, (next reply).Yields R
  | notify _ next => next.Yields R
  | overrun => True

theorem Yields.bind {R : α → Prop} {R' : β → Prop} {p : Program α} {f : α → Program β}
    (first : p.Yields R) (second : ∀ a, R a → (f a).Yields R') : (p.bind f).Yields R' := by
  induction p with
  | done a => exact second a first
  | store call next ih => exact fun reply => ih reply (first reply)
  | host token call next ih => exact fun reply => ih reply (first reply)
  | notify n next ih => exact ih first
  | overrun => trivial

/-- What follows a program need only be known for **results that it can have**. -/
theorem Makes.bind_yields {R : α → Prop} {p : Program α} {f : α → Program β}
    (first : p.Makes P Q N) (yields : p.Yields R) (second : ∀ a, R a → (f a).Makes P Q N) :
    (p.bind f).Makes P Q N := by
  induction p with
  | done a => exact second a yields
  | store call next ih => exact ⟨first.1, fun reply => ih reply (first.2 reply) (yields reply)⟩
  | host token call next ih =>
      exact ⟨first.1, fun reply => ih reply (first.2 reply) (yields reply)⟩
  | notify n next ih => exact ⟨first.1, ih first.2 yields⟩
  | overrun => trivial

/-- Of any program there is nothing to know about the result. -/
theorem yields_any (p : Program α) : p.Yields fun _ => True := by
  induction p with
  | done a => trivial
  | store call next ih => exact ih
  | host token call next ih => exact ih
  | notify n next ih => exact ih
  | overrun => trivial

theorem Makes.bind {p : Program α} {f : α → Program β} (first : p.Makes P Q N)
    (second : ∀ a, (f a).Makes P Q N) : (p.bind f).Makes P Q N :=
  first.bind_yields p.yields_any fun a _ => second a

/-! ### Carrying a program out -/

variable {σ : Type}

/-- A sequence is carried out **one part after the other**. -/
theorem run_bind (w : Surroundings σ) (p : Program α) (f : α → Program β) (s : σ) :
    (p.bind f).run w s = (p.run w s).bind fun (a, s') => (f a).run w s' := by
  induction p generalizing s with
  | done a => rfl
  | store call next ih => exact ih _ _
  | host token call next ih => exact ih _ _
  | notify n next ih => exact ih _
  | overrun => rfl

/-- A program **runs alike** wherever the calls that it makes are answered alike. -/
theorem Makes.run_eq {w w' : Surroundings σ} {p : Program α} (h : p.Makes P Q N)
    (alike : w.Alike Q w') (s : σ) : p.run w s = p.run w' s := by
  induction p generalizing s with
  | done a => rfl
  | store call next ih =>
      rw [run, run, alike.store]
      exact ih _ (h.2 _) _
  | host token call next ih =>
      rw [run, run, alike.host token call h.1]
      exact ih _ (h.2 _) _
  | notify n next ih =>
      rw [run, run, alike.notify]
      exact ih h.2 _
  | overrun => rfl

end Program

/-! ### Operations -/

namespace Operation

variable {α β : Type} {P : StoreCall → Prop} {Q : String → HostCall → Prop}
  {N : Notification → Prop}

/-- All that an operation calls and hands over is of the given kinds, whatever the answers are. -/
def Makes (P : StoreCall → Prop) (Q : String → HostCall → Prop) (N : Notification → Prop)
    (op : Operation α) : Prop :=
  Program.Makes P Q N op.run

theorem Makes.mono {P' : StoreCall → Prop} {Q' : String → HostCall → Prop}
    {N' : Notification → Prop} {op : Operation α} (h : Makes P Q N op)
    (store : ∀ call, P call → P' call) (host : ∀ token call, Q token call → Q' token call)
    (notices : ∀ n, N n → N' n) : Makes P' Q' N' op :=
  Program.Makes.mono store host notices h

/-- An operation that asks the code host nothing keeps to whatever it may ask. -/
theorem Calls.makes {op : Operation α} (h : Calls P (fun _ => False) op) :
    Makes P Q AnyNotice op :=
  Program.Calls.makes h

/-- Without the credentials, this is what an operation calls. -/
theorem Makes.calls {R : HostCall → Prop} {op : Operation α} (h : Makes P Q N op)
    (host : ∀ token call, Q token call → R call) : Calls P R op :=
  Program.Makes.calls h host

/-- If nothing is handed over, this is what an operation asks. -/
theorem Makes.asks {R : HostCall → Prop} {op : Operation α} (h : Makes P Q NoNotice op)
    (host : ∀ token call, Q token call → R call) : Asks P R op :=
  Program.Makes.asks h host

theorem makes_pure (a : α) : Makes P Q N (pure a) := trivial

theorem makes_fail (e : OperationError) : Makes P Q N (fail e : Operation α) := trivial

theorem makes_bind {op : Operation α} {f : α → Operation β} (first : Makes P Q N op)
    (second : ∀ a, Makes P Q N (f a)) : Makes P Q N (op >>= f) :=
  Program.Makes.bind first fun
    | .ok a => second a
    | .error _ => trivial

theorem makes_lift {p : Program α} (h : p.Makes P Q N) : Makes P Q N (ExceptT.lift p) :=
  Program.Makes.bind h fun _ => trivial

theorem makes_tryStore {call : StoreCall} (h : P call) : Makes P Q N (tryStore call) :=
  makes_lift ⟨h, fun _ => trivial⟩

theorem makes_store {call : StoreCall} (h : P call) : Makes P Q N (store call) :=
  makes_bind (makes_tryStore h) fun
    | .ok _ => makes_pure _
    | .error _ => makes_fail _

theorem makes_tryHost {token : String} {call : HostCall} (h : Q token call) :
    Makes P Q N (tryHost token call) :=
  makes_lift ⟨h, fun _ => trivial⟩

theorem makes_host {token : String} {call : HostCall} (h : Q token call) :
    Makes P Q N (host token call) :=
  makes_bind (makes_tryHost h) fun
    | .ok _ => makes_pure _
    | .error _ => makes_fail _

theorem makes_notify {n : Notification} (h : N n) : Makes P Q N (notify n) :=
  makes_lift (p := .notify n (.done ())) ⟨h, trivial⟩

theorem makes_attempt {op : Operation α} (h : Makes P Q N op) : Makes P Q N (attempt op) :=
  makes_lift h

theorem makes_stage {name : String} {op : Operation α} (h : Makes P Q N op) :
    Makes P Q N (stage name op) :=
  Program.Makes.bind h fun
    | .ok _ => trivial
    | .error _ => trivial

theorem makes_ofDomain (r : Except DomainError α) : Makes P Q N (ofDomain r) := by
  cases r <;> trivial

theorem makes_ofConfig (r : Except ConfigError α) : Makes P Q N (ofConfig r) := by
  cases r <;> trivial

theorem makes_ifFound {call : StoreCall} (h : P call) :
    Makes P Q N (Resolution.ifFound call) :=
  makes_bind (makes_tryStore h) fun
    | .ok _ => makes_pure _
    | .error e => by
        dsimp only
        split
        · exact makes_pure _
        · exact makes_fail _

theorem makes_mapM {f : α → Operation β} (h : ∀ a, Makes P Q N (f a)) (l : List α) :
    Makes P Q N (l.mapM f) := by
  induction l with
  | nil => exact makes_pure _
  | cons a l ih =>
      rw [List.mapM_cons]
      exact makes_bind (h a) fun _ => makes_bind ih fun _ => makes_pure _

/-- A sequence of operations is carried out **one part after the other**, unless the first one ends
with an error. -/
theorem run_bind {σ : Type} (w : Surroundings σ) (op : Operation α) (f : α → Operation β)
    (s : σ) : Program.run w (op >>= f).run s =
      (Program.run w op.run s).bind fun
        | (.ok a, s') => Program.run w (f a).run s'
        | (.error e, s') => some (.error e, s') := by
  refine (Program.run_bind w op.run (ExceptT.bindCont f) s).trans ?_
  congr
  funext ⟨r, s'⟩
  cases r <;> rfl

/-- A stage is carried out as its operation is, with its name on an error. -/
theorem run_stage {σ : Type} (w : Surroundings σ) (name : String) (op : Operation α) (s : σ) :
    Program.run w (stage name op).run s =
      (Program.run w op.run s).map fun (r, s') => (r.mapError (·.inStage name), s') := by
  refine (Program.run_bind w op.run _ s).trans ?_
  rw [Option.map_eq_bind]
  congr
  funext ⟨r, s'⟩
  cases r <;> rfl

/-- Whatever the answers are, the **value** that an operation ends with, if any, is of a kind. -/
def Yields (R : α → Prop) (op : Operation α) : Prop :=
  Program.Yields (fun
    | .ok a => R a
    | .error _ => True) op.run

theorem yields_pure {R : α → Prop} {a : α} (h : R a) : Yields R (pure a) := h

theorem Yields.mono {R R' : α → Prop} {op : Operation α} (h : Yields R op)
    (weaker : ∀ a, R a → R' a) : Yields R' op := by
  rw [Yields, ← Program.bind_done op.run]
  refine Program.Yields.bind h fun r known => ?_
  cases r with
  | ok a => exact weaker a known
  | error e => trivial

/-- Of a sequence only the **last part** counts. -/
theorem yields_bind {R : β → Prop} {op : Operation α} {f : α → Operation β}
    (last : ∀ a, Yields R (f a)) : Yields R (op >>= f) :=
  Program.Yields.bind (Program.yields_any op.run) fun
    | .ok a => fun _ => last a
    | .error _ => fun _ => trivial

theorem Yields.bind {R : α → Prop} {R' : β → Prop} {op : Operation α} {f : α → Operation β}
    (first : Yields R op) (second : ∀ a, R a → Yields R' (f a)) : Yields R' (op >>= f) :=
  Program.Yields.bind first fun
    | .ok a => second a
    | .error _ => fun _ => trivial

theorem yields_stage {R : α → Prop} {name : String} {op : Operation α} (h : Yields R op) :
    Yields R (stage name op) :=
  Program.Yields.bind h fun
    | .ok _ => id
    | .error _ => id

/-- What follows an operation need only be known for **values that it can have**. -/
theorem makes_bind_yields {R : α → Prop} {op : Operation α} {f : α → Operation β}
    (first : Makes P Q N op) (yields : Yields R op) (second : ∀ a, R a → Makes P Q N (f a)) :
    Makes P Q N (op >>= f) :=
  Program.Makes.bind_yields first yields fun
    | .ok a => second a
    | .error _ => fun _ => trivial

/-- A sequence as a stage is a **sequence of stages**. -/
theorem stage_bind (name : String) (op : Operation α) (f : α → Operation β) :
    stage name (op >>= f) = stage name op >>= fun a => stage name (f a) := by
  refine ((Program.bind_assoc op.run (ExceptT.bindCont f) _).trans ?_).trans
    (Program.bind_assoc op.run _ _).symm
  congr
  funext r
  cases r <;> rfl

theorem stage_map {α β : Type} (name : String) (f : α → β) (op : Operation α) :
    stage name (f <$> op) = f <$> stage name op := by
  rw [map_eq_pure_bind, map_eq_pure_bind, stage_bind]
  rfl

end Operation

/-! ### How far an execution has come -/

namespace Trace

/-- What the **code host was asked**, each with the credential, the oldest first. -/
def asked (tr : Trace) : List (String × HostCall) :=
  tr.filterMap fun
    | .host token call _ => some (token, call)
    | _ => none

@[simp] theorem asked_nil : asked [] = [] := rfl

@[simp] theorem asked_append (tr tr' : Trace) : asked (tr ++ tr') = asked tr ++ asked tr' :=
  List.filterMap_append

@[simp] theorem asked_store {call : StoreCall} {reply : Except StoreError call.Reply}
    {tr : Trace} : asked (.store call reply :: tr) = asked tr := rfl

@[simp] theorem asked_fault {call : StoreCall} {e : StoreError} {tr : Trace} :
    asked (.fault call e :: tr) = asked tr := rfl

@[simp] theorem asked_host {token : String} {call : HostCall}
    {reply : Except HostError call.Reply} {tr : Trace} :
    asked (.host token call reply :: tr) = (token, call) :: asked tr := rfl

@[simp] theorem asked_notice {n : Notification} {tr : Trace} :
    asked (.notice n :: tr) = asked tr := rfl

end Trace

namespace Program

variable {α β : Type} {P : StoreCall → Prop} {Q : String → HostCall → Prop}
  {N : Notification → Prop} {s s' : Store} {tr : Trace}

/-- An execution of a program that began in a store **has come so far**: what has happened is the
trace, the rest of the program is left to do, and the store is as it is by then. -/
inductive Reaches : Program α → Store → Trace → Program α → Store → Prop
  | here (p : Program α) (s : Store) : Reaches p s [] p s
  | store {call : StoreCall} {next : Except StoreError call.Reply → Program α} {s s' : Store}
      {tr : Trace} {rest : Program α} (now : Timestamp) :
      Reaches (next (call.run now s).1) (call.run now s).2 tr rest s' →
      Reaches (.store call next) s (.store call (call.run now s).1 :: tr) rest s'
  | fault {call : StoreCall} {next : Except StoreError call.Reply → Program α} {s s' : Store}
      {tr : Trace} {rest : Program α} (e : StoreError) :
      Reaches (next (.error e)) s tr rest s' →
      Reaches (.store call next) s (.fault call e :: tr) rest s'
  | host {token : String} {call : HostCall} {next : Except HostError call.Reply → Program α}
      {s s' : Store} {tr : Trace} {rest : Program α} (reply : Except HostError call.Reply) :
      Reaches (next reply) s tr rest s' →
      Reaches (.host token call next) s (.host token call reply :: tr) rest s'
  | notify {n : Notification} {next : Program α} {s s' : Store} {tr : Trace} {rest : Program α} :
      Reaches next s tr rest s' → Reaches (.notify n next) s (.notice n :: tr) rest s'

/-- An execution that **has ended** has come to the result. -/
theorem Ends.reaches {p : Program α} {a : α} (h : p.Ends s tr a s') :
    p.Reaches s tr (.done a) s' := by
  induction h with
  | done a s => exact .here _ _
  | store now _ ih => exact .store now ih
  | fault e _ ih => exact .fault e ih
  | host reply _ ih => exact .host reply ih
  | notify _ ih => exact .notify ih

/-- An execution of a **sequence** has come to a part of the first program, or that has ended and
the execution has come to a part of the second. -/
theorem Reaches.bind_cases {p : Program α} {f : α → Program β} {rest : Program β}
    (h : (p.bind f).Reaches s tr rest s') :
    (∃ rest', p.Reaches s tr rest' s' ∧ rest = rest'.bind f) ∨
      ∃ a s₁ tr₁ tr₂, p.Ends s tr₁ a s₁ ∧ (f a).Reaches s₁ tr₂ rest s' ∧ tr = tr₁ ++ tr₂ := by
  induction p generalizing s tr with
  | done a => exact .inr ⟨a, s, [], tr, .done a s, h, rfl⟩
  | store call next ih =>
      cases h with
      | here => exact .inl ⟨_, .here _ _, rfl⟩
      | store now later =>
          rcases ih _ later with ⟨rest', first, rfl⟩ | ⟨a, s₁, tr₁, tr₂, first, second, rfl⟩
          · exact .inl ⟨rest', .store now first, rfl⟩
          · exact .inr ⟨a, s₁, _, tr₂, .store now first, second, rfl⟩
      | fault e later =>
          rcases ih _ later with ⟨rest', first, rfl⟩ | ⟨a, s₁, tr₁, tr₂, first, second, rfl⟩
          · exact .inl ⟨rest', .fault e first, rfl⟩
          · exact .inr ⟨a, s₁, _, tr₂, .fault e first, second, rfl⟩
  | host token call next ih =>
      cases h with
      | here => exact .inl ⟨_, .here _ _, rfl⟩
      | host reply later =>
          rcases ih _ later with ⟨rest', first, rfl⟩ | ⟨a, s₁, tr₁, tr₂, first, second, rfl⟩
          · exact .inl ⟨rest', .host reply first, rfl⟩
          · exact .inr ⟨a, s₁, _, tr₂, .host reply first, second, rfl⟩
  | notify n next ih =>
      cases h with
      | here => exact .inl ⟨_, .here _ _, rfl⟩
      | notify later =>
          rcases ih later with ⟨rest', first, rfl⟩ | ⟨a, s₁, tr₁, tr₂, first, second, rfl⟩
          · exact .inl ⟨rest', .notify first, rfl⟩
          · exact .inr ⟨a, s₁, _, tr₂, .notify first, second, rfl⟩
  | overrun =>
      cases h with
      | here => exact .inl ⟨_, .here _ _, rfl⟩

/-- The result that an execution ends with is of the kind that the program **yields**. -/
theorem Ends.yields {R : α → Prop} {p : Program α} {a : α} (h : p.Ends s tr a s')
    (yields : p.Yields R) : R a := by
  induction h with
  | done => exact yields
  | store now _ ih => exact ih (yields _)
  | fault e _ ih => exact ih (yields _)
  | host reply _ ih => exact ih (yields reply)
  | notify _ ih => exact ih yields

/-- What **has been asked** so far is of the kind that the program asks. -/
theorem Reaches.asked {p rest : Program α} (h : p.Reaches s tr rest s') (makes : p.Makes P Q N) :
    ∀ x ∈ tr.asked, Q x.1 x.2 := by
  induction h with
  | here => simp
  | store now _ ih => exact ih (makes.2 _)
  | fault e _ ih => exact ih (makes.2 _)
  | host reply _ ih => exact List.forall_mem_cons.mpr ⟨makes.1, ih (makes.2 reply)⟩
  | notify _ ih => exact ih makes.2

end Program

namespace Operation

variable {α β : Type} {s s' : Store} {tr : Trace}

/-- An execution of a sequence whose first part looks things up in the store at most: nothing has
been asked, or the first part has ended and left the store **as it was**. -/
theorem reaches_bind_lookups {op : Operation α} {f : α → Operation β}
    {rest : Program (Except OperationError β)}
    (lookups : Makes StoreCall.IsLookup (fun _ _ => False) NoNotice op)
    (h : Program.Reaches (op >>= f).run s tr rest s') :
    tr.asked = [] ∨ ∃ a tr₁ tr₂, Ends op s tr₁ (.ok a) s ∧
      Program.Reaches (f a).run s tr₂ rest s' ∧ tr = tr₁ ++ tr₂ ∧ tr.asked = tr₂.asked := by
  have nothing {p : Program (Except OperationError α)} {s₁ : Store} {tr : Trace}
      (reached : Program.Reaches op.run s tr p s₁) : tr.asked = [] :=
    List.eq_nil_iff_forall_not_mem.mpr (reached.asked lookups)
  rcases Program.Reaches.bind_cases h with
    ⟨rest', first, -⟩ | ⟨r, s₁, tr₁, tr₂, first, second, rfl⟩
  · exact .inl (nothing first)
  · have silent := nothing first.reaches
    cases r with
    | error e =>
        cases second with
        | here => exact .inl (by simpa using silent)
    | ok a =>
        have ended : Ends op s tr₁ (.ok a) s₁ := first
        obtain rfl : s₁ = s := ended.store_eq
          (lookups.asks (R := fun _ => False) fun _ _ => id).calls
        exact .inr ⟨a, tr₁, tr₂, ended, second, rfl, by simp [silent]⟩

end Operation

end Dispatch
