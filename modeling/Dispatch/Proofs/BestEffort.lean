import Dispatch.Proofs.History

/-!
# Best-effort calls

Statuses are posted and cleared, and complaints become comments, as far as that is possible. No
decision rests on it: whether such a call fails, whether a notification is dropped because too many
wait, and when the worker delivers those that wait makes no difference to what the dispatcher
answers, to its store, or to what else it asks the code host.

A service is a dispatcher at work whose worker may deliver, or go away, before each of its steps.
All that the outside world decides about its essential calls stands in an environment, and all that
it decides about the others in circumstances. So two services in one environment differ in nothing
but what concerns best-effort calls.

## Main definitions

* `Program.Robust`, `Operation.Robust`: no step depends on the answer to a best-effort call.
* `Surroundings.Agree`: two surroundings differ in nothing that a robust program goes by.
* `Environment`, `Circumstances`: what the outside world decides.
* `Service`: a dispatcher at work, its notifications and its worker.
* `Environment.serve`: carries out one order after the other.

## Main results

* `Program.Robust.run`: surroundings that agree carry a robust program out alike.
* `Order.robust`: whatever the dispatcher does is robust.
* `Environment.serve_indifferent`: best-effort calls never influence anything else.
-/

namespace Dispatch

/-! ### Robust programs -/

namespace Program

variable {α β : Type}

/-- A program is **robust** if what it does after a best-effort call is the same whatever the
answer. -/
def Robust : Program α → Prop
  | done _ => True
  | store _ next => ∀ reply, (next reply).Robust
  | host _ call next =>
    (¬ call.IsEssential → ∀ reply reply', next reply = next reply') ∧ ∀ reply, (next reply).Robust
  | notify _ next => next.Robust
  | overrun => True

theorem Robust.bind {p : Program α} {f : α → Program β} (first : p.Robust)
    (second : ∀ a, (f a).Robust) : (p.bind f).Robust := by
  induction p with
  | done a => exact second a
  | store call next ih => exact fun reply => ih reply (first reply)
  | host token call next ih =>
      refine ⟨fun other reply reply' => ?_, fun reply => ih reply (first.2 reply)⟩
      exact congrArg (·.bind f) (first.1 other reply reply')
  | notify n next ih => exact ih first
  | overrun => trivial

/-- A program that makes no best-effort calls itself is robust, whatever it hands over. -/
theorem Calls.robust {P : StoreCall → Prop} {p : Program α}
    (calls : p.Calls P HostCall.IsEssential) : p.Robust := by
  induction p with
  | done a => trivial
  | store call next ih => exact fun reply => ih reply (calls.2 reply)
  | host token call next ih =>
      exact ⟨fun other => absurd calls.1 other, fun reply => ih reply (calls.2 reply)⟩
  | notify n next ih => exact ih calls
  | overrun => trivial

theorem run_store {σ : Type} (w : Surroundings σ) (call : StoreCall)
    (next : Except StoreError call.Reply → Program α) (s : σ) :
    (store call next).run w s = (next (w.store call s).1).run w (w.store call s).2 := rfl

theorem run_host {σ : Type} (w : Surroundings σ) (token : String) (call : HostCall)
    (next : Except HostError call.Reply → Program α) (s : σ) :
    (host token call next).run w s =
      (next (w.host token call s).1).run w (w.host token call s).2 := rfl

end Program

/-- Two surroundings **agree** along a relation of their states: they give the same answers to
calls to the store and to essential calls to the code host, and whatever they do, their states stay
related. -/
structure Surroundings.Agree {σ τ : Type} (w : Surroundings σ) (w' : Surroundings τ)
    (related : σ → τ → Prop) : Prop where
  store (call : StoreCall) {s : σ} {t : τ} : related s t →
    (w.store call s).1 = (w'.store call t).1 ∧ related (w.store call s).2 (w'.store call t).2
  essential (token : String) (call : HostCall) {s : σ} {t : τ} : call.IsEssential → related s t →
    (w.host token call s).1 = (w'.host token call t).1 ∧
      related (w.host token call s).2 (w'.host token call t).2
  bestEffort (token : String) (call : HostCall) {s : σ} {t : τ} : ¬ call.IsEssential →
    related s t → related (w.host token call s).2 (w'.host token call t).2
  notify (n : Notification) {s : σ} {t : τ} : related s t → related (w.notify n s) (w'.notify n t)

/-- Surroundings that agree **carry a robust program out alike**: both cut it off, or both come to
the same result, in states that are related. -/
theorem Program.Robust.run {α σ τ : Type} {w : Surroundings σ} {w' : Surroundings τ}
    {related : σ → τ → Prop} (agree : w.Agree w' related) {p : Program α} (robust : p.Robust)
    {s : σ} {t : τ} (start : related s t) :
    Option.Rel (fun x y => x.1 = y.1 ∧ related x.2 y.2) (p.run w s) (p.run w' t) := by
  induction p generalizing s t with
  | done a => exact .some ⟨rfl, start⟩
  | store call next ih =>
      obtain ⟨same, later⟩ := agree.store call start
      have rest := ih (w.store call s).1 (robust _) later
      rwa [run_store, run_store, ← same]
  | host token call next ih =>
      rw [run_host, run_host]
      by_cases essential : call.IsEssential
      · obtain ⟨same, later⟩ := agree.essential token call essential start
        have rest := ih (w.host token call s).1 (robust.2 _) later
        rwa [← same]
      · -- The answers may differ, but the program goes on in the same way after both.
        have later := agree.bestEffort token call essential start
        have rest := ih (w.host token call s).1 (robust.2 _) later
        rwa [← robust.1 essential (w.host token call s).1 (w'.host token call t).1]
  | notify n next ih =>
      exact ih robust (agree.notify n start)
  | overrun => exact .none

/-! ### Robust operations -/

namespace Operation

variable {α β : Type}

/-- An operation is **robust** if what it does after a best-effort call is the same whatever the
answer. -/
def Robust (op : Operation α) : Prop := Program.Robust op.run

theorem Calls.robust {P : StoreCall → Prop} {op : Operation α}
    (calls : op.Calls P HostCall.IsEssential) : op.Robust := Program.Calls.robust calls

theorem robust_bind {op : Operation α} {f : α → Operation β} (first : op.Robust)
    (second : ∀ a, (f a).Robust) : (op >>= f).Robust :=
  Program.Robust.bind first fun
    | .ok a => second a
    | .error _ => trivial

theorem robust_lift {p : Program α} (h : p.Robust) : (ExceptT.lift p : Operation α).Robust :=
  Program.Robust.bind h fun _ => trivial

theorem robust_attempt {op : Operation α} (h : op.Robust) : (attempt op).Robust := robust_lift h

theorem robust_store (call : StoreCall) : (store call).Robust :=
  (calls_store (P := fun _ => True) trivial).robust

theorem compositional_robust : Compositional fun _ => Robust where
  pure _ := trivial
  fail _ := trivial
  bind := robust_bind
  attempt := robust_attempt
  lookup _ := robust_store _

theorem robust_stage {name : String} {op : Operation α} (h : op.Robust) :
    (stage name op).Robust :=
  Program.Robust.bind h fun
    | .ok _ => trivial
    | .error _ => trivial

/-- A call whose answer is **not looked at** can be made for best effort. -/
theorem robust_tried {token : String} {call : HostCall} {op : Operation α} (h : op.Robust) :
    (tryHost token call >>= fun _ => op).Robust :=
  ⟨fun _ _ _ => rfl, fun _ => h⟩

end Operation

open Operation

namespace Resolution

/-- Work is canceled and statuses are cleared, but **the outcome is not looked at**. -/
theorem resolve_robust (request : SubmissionRequest) : (resolve request).Robust := by
  rw [resolve_eq]
  refine robust_bind (asks_survey request).calls.robust fun found => ?_
  refine robust_bind (calls_attempt (Cancellation.calls_ref _ _ _)).robust fun canceled => ?_
  exact robust_tried (calls_pure found.1 (P := fun _ => True)).robust

end Resolution

namespace Picking

variable {r : Resolved}

/-- A complaint becomes a comment **if it can**. -/
theorem complain_robust (dir : String) (e : ConfigError) : (complain r dir e).Robust := by
  have silent : (pure () : Operation Unit).Robust := trivial
  rw [complain]
  split
  · exact robust_tried silent
  · exact silent

theorem fill_robust (limit : Nat) (selected : Directories) (submission : Submission) :
    (fill limit r selected submission).Robust := by
  have reads {call : HostCall} (asks : AsksForDeclaration r call) : call.IsEssential := by
    obtain ⟨dir, rfl⟩ := asks
    trivial
  have loading : (load limit r selected).Robust :=
    ((asks_load limit selected).mono (fun _ => id) fun _ => reads).calls.robust
  refine robust_bind (robust_lift loading) fun outcome => ?_
  cases outcome with
  | error failure => exact robust_bind (complain_robust _ _) fun _ => trivial
  | ok loaded =>
      have creation (entry : String × TaskSettings) : Calls (fun _ => True) HostCall.IsEssential
          (createTask r submission entry.1 entry.2) :=
        (calls_createTask submission entry.1 entry.2).mono (fun _ => id) fun _ none => none.elim
      exact robust_bind (calls_mapM creation loaded.entries).robust fun _ => trivial

theorem pick_robust (limit : Nat) : (pick limit r).Robust := by
  rw [pick_eq]
  have choosing : (choose r).Robust := by
    refine ((asks_choose r).mono (fun _ => id) fun call asks => ?_).calls.robust
    rcases asks with rfl | rfl <;> trivial
  refine robust_bind choosing fun selected => ?_
  refine robust_bind (robust_stage (robust_store _)) fun s => ?_
  exact fill_robust limit selected s

end Picking

namespace Intake

theorem lineUp_robust (p : Picked) : (lineUp p).Robust :=
  (calls_lineUp p (P := fun _ => True) (fun _ _ => trivial) trivial).robust

/-- From its resolution to the report on its failure, **a submission** depends on no best-effort
call. -/
theorem submit_robust (limit : Nat) (request : SubmissionRequest) :
    (submit limit request).Robust := by
  refine robust_bind (robust_stage (Resolution.resolve_robust request)) fun resolved => ?_
  have start : (start limit resolved).Robust := by
    rw [start_eq]
    exact robust_bind (robust_stage (Picking.pick_robust limit)) lineUp_robust
  refine robust_bind (robust_attempt start) fun outcome => ?_
  cases outcome <;> trivial

end Intake

/-- Whatever the dispatcher does on a demand is robust. -/
theorem Demand.robust (d : Demand) : d.operation.Robust :=
  composed compositional_robust (fun _ => Intake.submit_robust)
    (fun queue worker => (Worker.calls_next queue worker).robust)
    (fun run success message => (Worker.calls_setStatus run success message).robust)
    fun id => (Cancellation.calls_task id).robust

/-- **Whatever the dispatcher does** is robust. -/
theorem Order.robust (o : Order) : o.operation.Robust := by
  cases o with
  | demand d => exact d.robust
  | showSubmission id => exact robust_store _
  | showTask id => exact robust_store _

/-! ### The outside world -/

/-- What the outside world decides about **calls that are essential**, with a state in which it can
remember them. -/
structure Environment (η : Type) where
  /-- A call to the store fails before it takes effect, or it takes effect at some time. -/
  store : StoreCall → η → Except StoreError Timestamp × η
  host : String → (call : HostCall) → η → Except HostError call.Reply × η
  address : PublicAddress

/-- What the **worker** does when it has a turn: it delivers so many of the notifications that
wait, or it goes away for good. -/
inductive Turn where
  | deliver (count : Nat)
  | leave

/-- What the outside world decides about **best-effort calls**. -/
structure Circumstances where
  /-- For how many notifications the channel is made. -/
  buffer : Nat
  /-- What the worker does before the step with this number. -/
  turn : Nat → Turn
  /-- Why the best-effort call with this number fails, if it does. -/
  failure : Nat → Option HostError

/-- A best-effort call with its credential, and why it failed, if it did. -/
structure Trial where
  token : String
  call : HostCall
  failure : Option HostError

/-- The **core** of a service: what does not concern best-effort calls. -/
structure Core (η : Type) where
  store : Store
  /-- What the environment remembers. -/
  outside : η
  /-- The essential calls to the code host, each with its credential, the oldest first. -/
  asked : List (String × HostCall)

/-- A dispatcher **at work** in an environment. -/
structure Service (η : Type) where
  core : Core η
  channel : Channel
  /-- The best-effort calls, the oldest first. -/
  tried : List Trial
  /-- The number of the next step. -/
  step : Nat

/-- The answer to a best-effort call that fails or does not; other calls have none. -/
def HostCall.tried? (failure : Option HostError) :
    (call : HostCall) → Option (Except HostError call.Reply)
  | postStatus _ _ _ | clearStatuses _ _ | comment _ _ _ =>
    some (match failure with
      | none => .ok ()
      | some e => .error e)
  | _ => none

theorem HostCall.tried?_of_essential {call : HostCall} (h : call.IsEssential)
    (failure : Option HostError) : call.tried? failure = none := by
  cases call <;> first | rfl | exact h.elim

theorem HostCall.tried?_of_not_essential {call : HostCall} (h : ¬ call.IsEssential)
    (failure : Option HostError) : ∃ reply, call.tried? failure = some reply := by
  cases call <;> first | exact ⟨_, rfl⟩ | exact absurd trivial h

namespace Service

variable {η : Type}

/-- A service that begins with a store and with nothing to deliver. -/
def start (c : Circumstances) (store : Store) (outside : η) : Service η where
  core := ⟨store, outside, []⟩
  channel := .new c.buffer
  tried := []
  step := 0

/-- Makes a **best-effort call**, which is recorded. -/
def record (c : Circumstances) (token : String) (call : HostCall) (σ : Service η) : Service η :=
  { σ with tried := σ.tried ++ [⟨token, call, c.failure σ.tried.length⟩] }

/-- **Delivers** up to so many notifications, the oldest first; whether they can be posted makes no
difference. -/
def deliver (c : Circumstances) (address : PublicAddress) : Nat → Service η → Service η
  | 0, σ => σ
  | count + 1, σ =>
    match σ.channel.take? with
    | none => σ
    | some (n, channel) =>
      let call := HostCall.postStatus n.repository n.sha (n.report.status address)
      deliver c address count (record c n.token call { σ with channel })

/-- The service after the worker has had its **turn** before the next step. -/
def turn (c : Circumstances) (address : PublicAddress) (σ : Service η) : Service η :=
  let σ' := match c.turn σ.step with
    | .deliver count => deliver c address count σ
    | .leave => { σ with channel := σ.channel.abandon }
  { σ' with step := σ.step + 1 }

@[simp] theorem record_core (c : Circumstances) (token : String) (call : HostCall) (σ : Service η) :
    (record c token call σ).core = σ.core := rfl

@[simp] theorem deliver_core (c : Circumstances) (address : PublicAddress) (count : Nat)
    (σ : Service η) : (deliver c address count σ).core = σ.core := by
  induction count generalizing σ with
  | zero => rfl
  | succ count ih =>
      rw [deliver]
      split
      · rfl
      · rw [ih, record_core]

/-- The worker touches **nothing but the channel**. -/
@[simp] theorem turn_core (c : Circumstances) (address : PublicAddress) (σ : Service η) :
    (turn c address σ).core = σ.core := by
  rw [turn]
  cases c.turn σ.step with
  | deliver count => exact deliver_core c address count σ
  | leave => rfl

end Service

/-! ### Services -/

namespace Environment

variable {η : Type} (env : Environment η)

/-- A call to the store. -/
def answerStore (call : StoreCall) (k : Core η) : Except StoreError call.Reply × Core η :=
  match env.store call k.outside with
  | (.error e, outside) => (.error e, { k with outside })
  | (.ok now, outside) =>
    let (reply, store) := call.run now k.store
    (reply, { k with store, outside })

/-- An essential call to the code host. -/
def answerHost (token : String) (call : HostCall) (k : Core η) :
    Except HostError call.Reply × Core η :=
  let (reply, outside) := env.host token call k.outside
  (reply, { k with outside, asked := k.asked ++ [(token, call)] })

/-- How a service **answers** the calls of a program. -/
def surroundings (c : Circumstances) : Surroundings (Service η) where
  store call σ :=
    let σ := σ.turn c env.address
    let (reply, core) := env.answerStore call σ.core
    (reply, { σ with core })
  host token call σ :=
    let σ := σ.turn c env.address
    match call.tried? (c.failure σ.tried.length) with
    | some reply => (reply, σ.record c token call)
    | none =>
      let (reply, core) := env.answerHost token call σ.core
      (reply, { σ with core })
  notify n σ :=
    let σ := σ.turn c env.address
    { σ with channel := σ.channel.offer n }

/-- Services in one environment **agree** as long as their cores are the same. -/
theorem surroundings_agree (c c' : Circumstances) :
    (env.surroundings c).Agree (env.surroundings c') fun σ τ => σ.core = τ.core where
  store call σ τ same := by
    have equal : (σ.turn c env.address).core = (τ.turn c' env.address).core := by
      rw [Service.turn_core, Service.turn_core, same]
    simp only [surroundings, equal, and_self]
  essential token call σ τ essential same := by
    have equal : (σ.turn c env.address).core = (τ.turn c' env.address).core := by
      rw [Service.turn_core, Service.turn_core, same]
    simp only [surroundings, HostCall.tried?_of_essential essential, equal, and_self]
  bestEffort token call σ τ other same := by
    obtain ⟨reply, answer⟩ :=
      HostCall.tried?_of_not_essential other (c.failure (σ.turn c env.address).tried.length)
    obtain ⟨reply', answer'⟩ :=
      HostCall.tried?_of_not_essential other (c'.failure (τ.turn c' env.address).tried.length)
    simp only [surroundings, answer, answer', Service.record_core, Service.turn_core, same]
  notify n σ τ same := by
    simp only [surroundings, Service.turn_core, same]

/-- What a service does is an **execution**, in which the environment answers the essential calls
to the code host. -/
theorem run_ends {α : Type} {c : Circumstances} {p : Program α} {σ σ' : Service η} {a : α}
    (h : p.run (env.surroundings c) σ = some (a, σ')) :
    ∃ tr, p.Ends σ.core.store tr a σ'.core.store ∧
      ∀ token call reply, Event.host token call reply ∈ tr → call.IsEssential →
        ∃ outside, (env.host token call outside).1 = reply := by
  induction p generalizing σ with
  | done b =>
      obtain ⟨rfl, rfl⟩ : b = a ∧ σ = σ' := by simpa [Program.run] using h
      exact ⟨[], .done _ _, by simp⟩
  | store call next ih =>
      set τ := σ.turn c env.address with worked
      have same : τ.core = σ.core := Service.turn_core c env.address σ
      change (next (env.answerStore call τ.core).1).run _
        { τ with core := (env.answerStore call τ.core).2 } = _ at h
      rw [same] at h
      rcases decided : env.store call σ.core.outside with ⟨e | now, outside⟩
      · have answer : env.answerStore call σ.core = (.error e, { σ.core with outside }) := by
          rw [answerStore, decided]
        rw [answer] at h
        obtain ⟨tr, ends, answers⟩ := ih _ h
        exact ⟨_, .fault e ends, by simpa using answers⟩
      · have answer : env.answerStore call σ.core = ((call.run now σ.core.store).1,
            { σ.core with store := (call.run now σ.core.store).2, outside }) := by
          rw [answerStore, decided]
          rfl
        rw [answer] at h
        obtain ⟨tr, ends, answers⟩ := ih _ h
        exact ⟨_, .store now ends, by simpa using answers⟩
  | host token call next ih =>
      set τ := σ.turn c env.address with worked
      have same : τ.core = σ.core := Service.turn_core c env.address σ
      by_cases essential : call.IsEssential
      · have answer : (env.surroundings c).host token call σ =
            ((env.answerHost token call σ.core).1,
              { τ with core := (env.answerHost token call σ.core).2 }) := by
          simp only [surroundings, HostCall.tried?_of_essential essential, ← worked, same]
        rw [Program.run, answer] at h
        obtain ⟨tr, ends, answers⟩ := ih _ h
        refine ⟨_, .host _ ends, fun token' call' reply mem essential' => ?_⟩
        rcases List.mem_cons.mp mem with eq | later
        · injection eq with eq eq' eq''
          subst eq eq'
          rw [eq_of_heq eq'']
          exact ⟨σ.core.outside, rfl⟩
        · exact answers token' call' reply later essential'
      · obtain ⟨reply, answer⟩ :=
          HostCall.tried?_of_not_essential essential (c.failure τ.tried.length)
        have answer : (env.surroundings c).host token call σ = (reply, τ.record c token call) := by
          simp only [surroundings, ← worked, answer]
        rw [Program.run, answer] at h
        obtain ⟨tr, ends, answers⟩ := ih _ h
        rw [Service.record_core, same] at ends
        refine ⟨_, .host reply ends, fun token' call' reply' mem essential' => ?_⟩
        rcases List.mem_cons.mp mem with eq | later
        · injection eq with _ eq
          subst eq
          exact absurd essential' essential
        · exact answers token' call' reply' later essential'
  | notify n next ih =>
      obtain ⟨tr, ends, answers⟩ := ih h
      rw [← Service.turn_core c env.address σ]
      exact ⟨_, .notify ends, by simpa using answers⟩
  | overrun => cases h

end Environment

/-! ### Serving orders -/

/-- What has **come of an order**: its answer, and the core of the service after it. -/
structure Outcome (η : Type) where
  order : Order
  answer : Except OperationError order.Answer
  core : Core η

namespace Environment

variable {η : Type} (env : Environment η)

/-- **Carries out** one order after the other. An order that is cut off is the last one. -/
def serve (c : Circumstances) : List Order → Service η → List (Outcome η)
  | [], _ => []
  | o :: rest, σ =>
    match Program.run (env.surroundings c) o.operation.run σ with
    | none => []
    | some (answer, σ') => ⟨o, answer, σ'.core⟩ :: serve c rest σ'

theorem serve_congr (c c' : Circumstances) (orders : List Order) {σ τ : Service η}
    (same : σ.core = τ.core) : env.serve c orders σ = env.serve c' orders τ := by
  induction orders generalizing σ τ with
  | nil => rfl
  | cons o rest ih =>
      have alike := o.robust.run (env.surroundings_agree c c') same
      rw [serve, serve]
      -- Both services are cut off in this order, or neither is.
      generalize Program.run (env.surroundings c) o.operation.run σ = first at alike ⊢
      generalize Program.run (env.surroundings c') o.operation.run τ = second at alike ⊢
      cases alike with
      | none => rfl
      | some alike =>
          obtain ⟨answers, cores⟩ := alike
          dsimp only
          rw [answers, cores, ih cores]

/-- **Best-effort calls never influence anything else.** Two services that begin with the same
store in the same environment, and get the same orders, give the same answers, have the same store
after each order, and have asked the code host the same, however many notifications their channels
hold, whenever their workers deliver or go away, and whichever best-effort calls fail. -/
theorem serve_indifferent (c c' : Circumstances) (orders : List Order) (s : Store) (outside : η) :
    env.serve c orders (.start c s outside) = env.serve c' orders (.start c' s outside) :=
  env.serve_congr c c' orders rfl

end Environment

end Dispatch
