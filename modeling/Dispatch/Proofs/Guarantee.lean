import Dispatch.Proofs.Execution

/-!
# What a program ensures

Where the store does not fail, a program ensures a condition if it always ends, at whatever times
its calls take effect and whatever the code host answers, and if its result and the store that it
leaves meet the condition then. The condition is carried backwards through the program, so what a
sequence ensures is read off its parts.

## Main definitions

* `Program.Ensures`, `Operation.Ensures`: what a program ensures of its result and of the store.
* `Operation.Rests`: an operation answers in a certain way and changes nothing.

## Main results

* `Program.ensures_bind`, `Operation.ensures_bind`: what sequences ensure.
* `Program.Ensures.of_ends`: every execution without a failure of the store meets the condition.
* `Program.Ensures.exists_ends`: there is such an execution.
* `Session.perform_ensures`: a session in which nothing is to fail comes to an end that meets it.
-/

namespace Dispatch

/-! ### Programs -/

namespace Program

variable {α β : Type}

/-- A program **ensures** a condition on its result and the store that it leaves: it is never cut
off, and it meets the condition unless the store fails. -/
def Ensures (post : α → Store → Prop) : Program α → Store → Prop
  | done a, s => post a s
  | store call next, s => ∀ now, (next (call.run now s).1).Ensures post (call.run now s).2
  | host _ _ next, s => ∀ reply, (next reply).Ensures post s
  | notify _ next, s => next.Ensures post s
  | overrun, _ => False

theorem Ensures.mono {post post' : α → Store → Prop} (weaker : ∀ a s, post a s → post' a s)
    {p : Program α} {s : Store} (h : p.Ensures post s) : p.Ensures post' s := by
  induction p generalizing s with
  | done a => exact weaker a s h
  | store call next ih => exact fun now => ih _ (h now)
  | host token call next ih => exact fun reply => ih reply (h reply)
  | notify n next ih => exact ih h
  | overrun => exact h

/-- A sequence ensures a condition if its first part ensures that the second one does. -/
theorem ensures_bind {p : Program α} {f : α → Program β} {post : β → Store → Prop} {s : Store} :
    (p.bind f).Ensures post s ↔ p.Ensures (fun a => (f a).Ensures post) s := by
  induction p generalizing s with
  | done a => exact Iff.rfl
  | store call next ih => exact forall_congr' fun now => ih _
  | host token call next ih => exact forall_congr' fun reply => ih reply
  | notify n next ih => exact ih
  | overrun => exact Iff.rfl

/-- Every execution without a failure of the store **meets the condition**. -/
theorem Ensures.of_ends {post : α → Store → Prop} {p : Program α} {s s' : Store} {tr : Trace}
    {a : α} (h : p.Ensures post s) (ends : p.Ends s tr a s') (faultless : tr.Faultless) :
    post a s' := by
  induction ends with
  | done => exact h
  | store now _ ih => exact ih (h now) (by simpa using faultless)
  | fault => exact absurd faultless Trace.not_faultless_fault
  | host reply _ ih => exact ih (h reply) (by simpa using faultless)
  | notify _ ih => exact ih h (by simpa using faultless)

/-- What ensures a condition **can come to an end** without a failure of the store. -/
theorem Ensures.exists_ends {post : α → Store → Prop} {p : Program α} {s : Store}
    (h : p.Ensures post s) : ∃ tr a s', p.Ends s tr a s' ∧ tr.Faultless := by
  induction p generalizing s with
  | done a => exact ⟨[], a, s, .done a s, by simp⟩
  | store call next ih =>
      obtain ⟨tr, a, s', ends, faultless⟩ := ih _ (h (.startOfYear 0))
      exact ⟨_, a, s', .store _ ends, by simpa using faultless⟩
  | host token call next ih =>
      obtain ⟨tr, a, s', ends, faultless⟩ := ih (.error (.request "")) (h _)
      exact ⟨_, a, s', .host _ ends, by simpa using faultless⟩
  | notify n next ih =>
      obtain ⟨tr, a, s', ends, faultless⟩ := ih h
      exact ⟨_, a, s', .notify ends, by simpa using faultless⟩
  | overrun => exact h.elim

end Program

/-- A session in which nothing is to fail in the store **comes to an end** that meets the
condition. -/
theorem Session.run_ensures {α : Type} {p : Program α} {post : α → Store → Prop} {σ : Session}
    (h : p.Ensures post σ.store) (silent : σ.faults = []) :
    ∃ a σ', p.run surroundings σ = some (a, σ') ∧ post a σ'.store ∧ σ'.faults = [] := by
  induction p generalizing σ with
  | done a => exact ⟨a, σ, rfl, h, silent⟩
  | store call next ih =>
      have answer : answerStore call σ =
          ((call.run σ.now σ.store).1, { σ with store := (call.run σ.now σ.store).2 }) := by
        obtain ⟨step, store, faults, host, calls, channel, running⟩ := σ
        obtain rfl : faults = [] := silent
        rfl
      rw [Program.run]
      change ∃ a σ', (next (answerStore call σ).1).run surroundings (answerStore call σ).2 = _ ∧ _
      rw [answer]
      exact ih _ (h σ.now) silent
  | host token call next ih => exact ih _ (h _) silent
  | notify n next ih => exact ih h silent
  | overrun => exact h.elim

/-! ### Operations -/

namespace Operation

variable {α β : Type} {s : Store}

/-- An operation **ensures** a condition on its outcome and the store that it leaves. -/
def Ensures (post : Except OperationError α → Store → Prop) (op : Operation α) (s : Store) : Prop :=
  Program.Ensures post op.run s

/-- The operation **answers** in a certain way and leaves the store as it is. -/
def Rests (op : Operation α) (res : Except OperationError α) (s : Store) : Prop :=
  op.Ensures (fun res' s' => res' = res ∧ s' = s) s

variable {post : Except OperationError α → Store → Prop}

theorem Ensures.mono {post' : Except OperationError α → Store → Prop} {op : Operation α}
    (h : op.Ensures post s) (weaker : ∀ res s', post res s' → post' res s') :
    op.Ensures post' s :=
  Program.Ensures.mono weaker h

theorem ensures_congr {post' : Except OperationError α → Store → Prop} {op : Operation α}
    (same : ∀ res s', post res s' ↔ post' res s') : op.Ensures post s ↔ op.Ensures post' s :=
  ⟨fun h => h.mono fun res s' => (same res s').mp, fun h => h.mono fun res s' => (same res s').mpr⟩

theorem Ensures.of_ends {op : Operation α} {s' : Store} {tr : Trace}
    {res : Except OperationError α} (h : op.Ensures post s) (ends : op.Ends s tr res s')
    (faultless : tr.Faultless) : post res s' :=
  Program.Ensures.of_ends h ends faultless

theorem ensures_pure {a : α} : (pure a : Operation α).Ensures post s ↔ post (.ok a) s := Iff.rfl

/-- **Sequences of operations**: after an error the second part is left out. -/
theorem ensures_bind {op : Operation α} {f : α → Operation β}
    {post : Except OperationError β → Store → Prop} :
    (op >>= f).Ensures post s ↔ op.Ensures (fun res s' => match res with
      | .ok a => (f a).Ensures post s'
      | .error e => post (.error e) s') s := by
  have unfolded : (op >>= f).Ensures post s ↔
      Program.Ensures (fun r => (ExceptT.bindCont f r).Ensures post) op.run s :=
    Program.ensures_bind
  rw [unfolded]
  constructor
  · exact Program.Ensures.mono fun r s' h => by cases r <;> exact h
  · exact Program.Ensures.mono fun r s' h => by cases r <;> exact h

/-- After an operation that **answers and changes nothing**, the second part is on its own. -/
theorem Rests.bind {op : Operation α} {f : α → Operation β} {a : α}
    {res : Except OperationError β} (first : op.Rests (.ok a) s) (second : (f a).Rests res s) :
    (op >>= f).Rests res s := by
  refine ensures_bind.mpr (first.mono ?_)
  rintro _ _ ⟨rfl, rfl⟩
  exact second

theorem ensures_tryStore (call : StoreCall)
    {post : Except OperationError (Except StoreError call.Reply) → Store → Prop} :
    (tryStore call).Ensures post s ↔
      ∀ now, post (.ok (call.run now s).1) (call.run now s).2 := Iff.rfl

theorem ensures_store (call : StoreCall)
    {post : Except OperationError call.Reply → Store → Prop} :
    (store call).Ensures post s ↔ ∀ now, match call.run now s with
      | (.ok a, s') => post (.ok a) s'
      | (.error e, s') => post (.error (e : StoreError)) s' := by
  rw [store, ensures_bind, ensures_tryStore]
  refine forall_congr' fun now => ?_
  rcases call.run now s with ⟨_ | a, s'⟩ <;> exact Iff.rfl

/-- A **stage** ensures of its errors what holds once they say so. -/
theorem ensures_stage {name : String} {op : Operation α} :
    (stage name op).Ensures post s ↔
      op.Ensures (fun res => post (res.mapError (·.inStage name))) s := by
  have unfolded : (stage name op).Ensures post s ↔ _ := Program.ensures_bind
  rw [unfolded]
  constructor
  · exact Program.Ensures.mono fun r s' h => by cases r <;> exact h
  · exact Program.Ensures.mono fun r s' h => by cases r <;> exact h

theorem ensures_notify {n : Notification} {post : Except OperationError Unit → Store → Prop} :
    (notify n).Ensures post s ↔ post (.ok ()) s := Iff.rfl

/-- An operation **rests** if its first call to the store is refused. -/
theorem rests_of_refused {call : StoreCall} {f : call.Reply → Operation α} {e : StoreError}
    (refused : ∀ now, call.run now s = (.error e, s)) :
    (store call >>= f).Rests (.error (e : OperationError)) s := by
  refine ensures_bind.mpr ((ensures_store call).mpr fun now => ?_)
  rw [refused]
  exact ⟨rfl, rfl⟩

theorem ensures_attempt {op : Operation α}
    {post : Except OperationError (Except OperationError α) → Store → Prop} :
    (attempt op).Ensures post s ↔ op.Ensures (fun res => post (.ok res)) s :=
  Program.ensures_bind

end Operation

/-- Carrying out an operation in a session in which nothing is to fail in the store **comes to an
end** that meets the condition. -/
theorem Session.perform_ensures {α : Type} {op : Operation α}
    {post : Except OperationError α → Store → Prop} {σ : Session}
    (h : op.Ensures post σ.store) (silent : σ.faults = []) :
    ∃ res σ', perform op σ = some (res, σ') ∧ post res σ'.store ∧ σ'.faults = [] :=
  run_ensures h silent

end Dispatch
