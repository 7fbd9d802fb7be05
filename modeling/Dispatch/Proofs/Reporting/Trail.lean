import Dispatch.Proofs.History
import Dispatch.Proofs.Store.Atomicity

/-!
# The trail of a run

What happens to a run can be followed from outside: from the notifications about it, in the order
in which they are handed over, and from the calls to the store that end runs. Each notification has
an address, and so has each task: the credential of the owner of its repository, the name of this
repository, and the commit that its submission tests. What the address of a task consists of is
never changed, so the address stays the same.

## Main definitions

* `Stage`, `Report.stage`: what a notification says has become of a run.
* `Run.Ending`: how a run gets its status.
* `Trace.about`, `Trace.stages`, `Trace.endings`: the trail of a run in a trace.
* `Trace.Silent`: a trace that leaves no trail.
* `Store.Later`: a store in which work and what it refers to are the same, or more.
* `Store.Addresses`: the address of a task's notifications.

## Main results

* `Report.status_state`, `Report.status_subject`: what the commit status of a report shows.
* `Program.Ends.silent`: a program that hands nothing over and ends no run is silent.
* `Program.Ends.created`: a run that is created stays.
* `Store.Addresses.later`, `Store.Addresses.unique`: a task keeps its address, and has one only.
* `Store.Integrity.addresses_target`: the target of a task is its address.
-/

namespace Dispatch

/-! ### Stages and endings -/

/-- A **stage** in the life of a run. -/
inductive Stage where
  | pending
  | started
  | ended (state : StatusState)
deriving DecidableEq

/-- The state that the code host shows for a stage. -/
def Stage.state : Stage → StatusState
  | pending | started => .pending
  | ended state => state

/-- How a run **gets its status**: it is recorded, or its task is canceled. -/
inductive Run.Ending where
  | recorded (success : Bool)
  | canceled
deriving DecidableEq

namespace Run.Ending

/-- The status that the run gets. -/
def success : Run.Ending → Bool
  | recorded success => success
  | canceled => false

/-- The state that agrees with it. -/
def state : Run.Ending → StatusState
  | recorded true => .success
  | recorded false => .failure
  | canceled => .error

end Run.Ending

namespace Report

/-- The run that a report is about, with its name, if it is about a run. -/
def subject? : Report → Option (Id × String)
  | pending run name | started run name => some (run, name)
  | errored run name _ => some (run, name)
  | finished run name _ _ => some (run, name)
  | notStarted _ => none

/-- The **stage** that a report announces. -/
def stage : Report → Stage
  | pending _ _ => .pending
  | started _ _ => .started
  | errored _ _ _ => .ended .error
  | finished _ _ success _ => .ended (Run.Ending.recorded success).state
  | notStarted _ => .ended .failure

/-- The commit status of a report shows the **state** of its stage. -/
theorem status_state (report : Report) (address : PublicAddress) :
    (report.status address).state = report.stage.state := by
  cases report with
  | finished run name success message => cases success <;> rfl
  | _ => rfl

/-- It shows the **name** of the run, with a link to its log. -/
theorem status_subject {report : Report} {run : Id} {name : String}
    (h : report.subject? = some (run, name)) (address : PublicAddress) :
    (report.status address).context = name ∧
      (report.status address).targetUrl = address.logPage run := by
  cases report with
  | notStarted message => cases h
  | _ => cases h; exact ⟨rfl, rfl⟩

end Report

/-- Where a notification **goes**, and the credential to post it with. -/
structure Address where
  token : String
  repository : String
  sha : String
deriving DecidableEq

/-- The address of a notification. -/
def Notification.address (n : Notification) : Address := ⟨n.token, n.repository, n.sha⟩

/-! ### Trails -/

namespace Event

/-- The notification that an event hands over. -/
def notice? : Event → Option Notification
  | notice n => some n
  | _ => none

/-- How an event **ends a run**, if it does. -/
def ending? (run : Id) : Event → Option Run.Ending
  | store (.finishRun id success) (.ok _) => if id = run then some (.recorded success) else none
  | store (.cancelTask _) (.ok (runs : List Run)) =>
    if run ∈ runs.map (·.id) then some .canceled else none
  | _ => none

end Event

namespace Trace

/-- The notifications **about a run**, in the order in which they were handed over. -/
def about (tr : Trace) (run : Id) : List Notification :=
  (tr.filterMap Event.notice?).filter fun n => n.report.subject?.any (·.1 = run)

/-- The **stages** of a run that have been announced. -/
def stages (tr : Trace) (run : Id) : List Stage := (tr.about run).map (·.report.stage)

/-- How a run **has ended**. -/
def endings (tr : Trace) (run : Id) : List Run.Ending := tr.filterMap (Event.ending? run)

variable {tr tr' : Trace} {run : Id}

@[simp] theorem about_append : (tr ++ tr').about run = tr.about run ++ tr'.about run := by
  simp [about]

@[simp] theorem stages_append : (tr ++ tr').stages run = tr.stages run ++ tr'.stages run := by
  simp [stages]

@[simp] theorem endings_append : (tr ++ tr').endings run = tr.endings run ++ tr'.endings run := by
  simp [endings]

@[simp] theorem endings_notice {n : Notification} : endings [.notice n] run = [] := rfl

/-- A notification about a run is one of those about it. -/
theorem about_own {n : Notification} {name : String} (h : n.report.subject? = some (run, name)) :
    about [.notice n] run = [n] := by
  simp [about, Event.notice?, h]

/-- It is about **no other** run. -/
theorem about_other {n : Notification} {id : Id} {name : String}
    (h : n.report.subject? = some (id, name)) (other : run ≠ id) : about [.notice n] run = [] := by
  simp [about, Event.notice?, h, other.symm]

/-- A notification about no run is about no run. -/
theorem about_none {n : Notification} (h : n.report.subject? = none) :
    about [.notice n] run = [] := by
  simp [about, Event.notice?, h]

/-- A trace that **leaves no trail** of any run. -/
def Silent (tr : Trace) : Prop := ∀ run, tr.about run = [] ∧ tr.endings run = []

theorem Silent.append (h : tr.Silent) (h' : tr'.Silent) : (tr ++ tr').Silent := fun run => by
  simp [h run, h' run]

end Trace

/-- A call to the store that **ends no run**. -/
def StoreCall.EndsNoRun : StoreCall → Prop
  | finishRun _ _ | cancelTask _ => False
  | _ => True

/-- An event that hands nothing over is silent, unless it ends a run. -/
theorem Trace.silent_singleton {ev : Event} (nothing : ev.notice? = none)
    (noEnding : ∀ run, ev.ending? run = none) : Trace.Silent [ev] := fun run => by
  simp [about, endings, nothing, noEnding run]

theorem StoreCall.EndsNoRun.silent {call : StoreCall} (h : call.EndsNoRun)
    (reply : Except StoreError call.Reply) : Trace.Silent [.store call reply] := by
  refine Trace.silent_singleton rfl fun run => ?_
  cases call <;> first | rfl | exact h.elim

/-- A call that the store refuses ends no run. -/
theorem Trace.silent_refused {call : StoreCall} {e : StoreError} :
    Trace.Silent [.store call (.error e)] := by
  refine Trace.silent_singleton rfl fun run => ?_
  cases call <;> rfl

theorem Trace.silent_fault {call : StoreCall} {e : StoreError} :
    Trace.Silent [.fault call e] :=
  Trace.silent_singleton rfl fun _ => rfl

theorem Trace.silent_host {token : String} {call : HostCall}
    {reply : Except HostError call.Reply} : Trace.Silent [.host token call reply] :=
  Trace.silent_singleton rfl fun _ => rfl

/-- A program that hands nothing over and ends no run **leaves no trail**. -/
theorem Program.Ends.silent {α : Type} {Q : HostCall → Prop} {p : Program α} {s s' : Store}
    {tr : Trace} {a : α} (h : p.Ends s tr a s') (asks : p.Asks StoreCall.EndsNoRun Q) :
    tr.Silent := by
  induction h with
  | done => exact fun _ => ⟨rfl, rfl⟩
  | store now _ ih => exact (asks.1.silent _).append (ih (asks.2 _))
  | fault e _ ih => exact Trace.silent_fault.append (ih (asks.2 _))
  | host reply _ ih => exact Trace.silent_host.append (ih (asks.2 _))
  | notify => exact asks.elim

/-! ### Later stores -/

namespace Store

/-- A **later** store: work, and what it refers to, is the same, and there may be more. -/
structure Later (s s' : Store) : Prop extends s.Grows s' where
  users : s.users <+: s'.users
  tasks : ∀ t ∈ s.tasks, ∃ t' ∈ s'.tasks, t'.SameWork t
  runs : ∀ r ∈ s.runs, ∃ r' ∈ s'.runs, r'.SameWork r

namespace Later

variable {s s' s'' : Store}

theorem of_prefix (grows : s.Grows s') (users : s.users <+: s'.users)
    (tasks : s.tasks <+: s'.tasks) (runs : s.runs <+: s'.runs) : s.Later s' where
  toGrows := grows
  users := users
  tasks t mem := ⟨t, tasks.subset mem, .refl t⟩
  runs r mem := ⟨r, runs.subset mem, .refl r⟩

theorem refl (s : Store) : s.Later s :=
  of_prefix (.refl s) List.prefix_rfl List.prefix_rfl List.prefix_rfl

theorem trans (h : s.Later s') (h' : s'.Later s'') : s.Later s'' where
  toGrows := h.toGrows.trans h'.toGrows
  users := h.users.trans h'.users
  tasks t mem := by
    obtain ⟨t', mem', same⟩ := h.tasks t mem
    obtain ⟨t'', mem'', same'⟩ := h'.tasks t' mem'
    exact ⟨t'', mem'', same'.trans same⟩
  runs r mem := by
    obtain ⟨r', mem', same⟩ := h.runs r mem
    obtain ⟨r'', mem'', same'⟩ := h'.runs r' mem'
    exact ⟨r'', mem'', same'.trans same⟩

/-- **Any call** leads to a later store. -/
theorem move (m : s.Move s') : s.Later s' := by
  have grows := m.grows
  cases m with
  | addTask now new accepted =>
      exact of_prefix grows List.prefix_rfl (List.prefix_append _ _) List.prefix_rfl
  | addRun now new valid task =>
      exact of_prefix grows List.prefix_rfl List.prefix_rfl (List.prefix_append _ _)
  | queueing batch accepted =>
      exact of_prefix grows List.prefix_rfl List.prefix_rfl List.prefix_rfl
  | step st =>
      obtain ⟨task, run, sameTask, sameRun, tasks, runs⟩ := st.sameWork
      constructor
      case toGrows => exact grows
      case users => cases st <;> first | exact List.prefix_rfl | exact List.prefix_append _ _
      case tasks => exact fun t mem => ⟨task t, tasks ▸ List.mem_map_of_mem mem, sameTask t⟩
      case runs => exact fun r mem => ⟨run r, runs ▸ List.mem_map_of_mem mem, sameRun r⟩

end Later

end Store

/-- So does every program. -/
theorem Program.Ends.later {α : Type} {p : Program α} {s s' : Store} {tr : Trace} {a : α}
    (h : p.Ends s tr a s') (whole : s.Integrity) : s'.Integrity ∧ s.Later s' :=
  h.keeps (P := fun _ => True) (I := fun s' => s'.Integrity ∧ s.Later s')
    (fun call _ now _ holds => ⟨call.run_integrity holds.1 now,
      holds.2.trans (.move (call.run_moves holds.1 now))⟩)
    (Program.calls_any _) ⟨whole, .refl s⟩

theorem Operation.Ends.later {α : Type} {op : Operation α} {s s' : Store} {tr : Trace}
    {res : Except OperationError α} (h : op.Ends s tr res s') (whole : s.Integrity) :
    s.Later s' :=
  (Program.Ends.later h whole).2

/-- A run that is **created** stays, with the task and the name that it was created with. -/
theorem Program.Ends.created {α : Type} {p : Program α} {s s' : Store} {tr : Trace} {a : α}
    (h : p.Ends s tr a s') (whole : s.Integrity) {new : NewRun} {r : Run}
    (mem : Event.store (.createRun new) (.ok r) ∈ tr) : ∃ r' ∈ s'.runs, r'.SameWork r := by
  induction h with
  | done => cases mem
  | @store call next s s' tr a now ends ih =>
      rcases List.mem_cons.mp mem with eq | later
      · have answer : ((StoreCall.createRun new).run now s).1 = .ok r := by
          injection eq with same heq
          subst same
          exact (eq_of_heq heq).symm
        injection eq with same
        subst same
        rcases Store.createRun_cases now new s with ⟨-, e, run⟩ | ⟨-, run⟩
        · rw [StoreCall.run, run] at answer
          cases answer
        · have integrity := (StoreCall.createRun new).run_integrity whole now
          refine (Program.Ends.later ends integrity).2.runs r ?_
          rw [StoreCall.run, run] at answer ⊢
          cases answer
          exact List.mem_append_right _ (List.mem_singleton_self _)
      · exact ih (call.run_integrity whole now) later
  | fault e _ ih => exact ih whole (by simpa using mem)
  | host reply _ ih => exact ih whole (by simpa using mem)
  | notify _ ih => exact ih whole (by simpa using mem)

/-! ### Addresses -/

namespace Store

/-- The **address** of a task's notifications: the credential of the owner of its repository, the
name of the repository, and the commit that its submission tests. -/
def Addresses (s : Store) (task : Id) (a : Address) : Prop :=
  ∃ t ∈ s.tasks, t.id = task ∧
    (∃ repository ∈ s.repositories, repository.id = t.repository ∧
      a.repository = repository.name ∧
      ∃ owner ∈ s.users, repository.owner = some owner.id ∧ a.token = owner.token) ∧
    ∃ x ∈ s.submissions, x.id = t.submission ∧ ∃ ref ∈ s.refs, ref.id = x.tested ∧ a.sha = ref.sha

variable {s s' : Store} {task : Id} {a b : Address}

/-- A task **keeps** its address. -/
theorem Addresses.later (h : s.Addresses task a) (later : s.Later s') : s'.Addresses task a := by
  obtain ⟨t, known, id, ⟨repository, knownRepository, parent, name, owner, knownOwner, owns, token⟩,
    x, knownSubmission, own, ref, knownRef, tested, sha⟩ := h
  obtain ⟨t', known', same⟩ := later.tasks t known
  refine ⟨t', known', same.id.trans id, ⟨repository, later.repositories.subset knownRepository,
    parent.trans same.repository.symm, name, owner, later.users.subset knownOwner, owns, token⟩,
    x, later.submissions.subset knownSubmission, own.trans same.submission.symm, ref,
    later.refs.subset knownRef, tested, sha⟩

/-- A task has **one** address. -/
theorem Addresses.unique (h : s.Addresses task a) (h' : s.Addresses task b) (whole : s.Integrity) :
    a = b := by
  obtain ⟨t, known, rfl, ⟨p, knownP, parent, name, u, knownU, owns, token⟩, x, knownX, own, ref,
    knownRef, tested, sha⟩ := h
  obtain ⟨t', known', id, ⟨p', knownP', parent', name', u', knownU', owns', token'⟩, x', knownX',
    own', ref', knownRef', tested', sha'⟩ := h'
  obtain rfl : t' = t := whole.eq_of_task_id known' known id
  obtain rfl : p' = p :=
    eq_of_key whole.repositories.nodup knownP' knownP (parent'.trans parent.symm)
  obtain rfl : u' = u :=
    eq_of_key whole.users.nodup knownU' knownU (Option.some.inj (owns'.symm.trans owns))
  obtain rfl : x' = x := eq_of_key whole.submissions.nodup knownX' knownX (own'.trans own.symm)
  obtain rfl : ref' = ref :=
    eq_of_key whole.refs.nodup knownRef' knownRef (tested'.trans tested.symm)
  obtain ⟨_, _, _⟩ := a
  obtain ⟨_, _, _⟩ := b
  simp_all

/-- The **target** of a task is its address, if its repository has an owner. -/
theorem Integrity.addresses_target (h : s.Integrity) {target : TaskTarget} {owner : User}
    (resolved : s.target task = .ok target) (owned : target.owner = some owner) :
    s.Addresses task ⟨owner.token, target.repository.name, target.sha⟩ := by
  have found : ∃ t, s.task task = .ok t := by
    cases known : s.task task with
    | ok t => exact ⟨t, rfl⟩
    | error e =>
        rw [Store.target, known] at resolved
        cases resolved
  obtain ⟨t, found⟩ := found
  obtain ⟨known, rfl⟩ := h.task?_eq_some.mp (expect_eq_ok.mp found)
  obtain ⟨repository, knownRepository, x, knownSubmission, ref, knownRef, parent, own, tested,
    resolved'⟩ := h.target_found known
  cases resolved'.symm.trans resolved
  obtain ⟨id, owns, user⟩ := Option.bind_eq_some_iff.mp owned
  obtain ⟨knownOwner, rfl⟩ := h.user?_eq_some.mp user
  exact ⟨t, known, rfl, ⟨repository, knownRepository, parent, rfl, owner, knownOwner, owns, rfl⟩, x,
    knownSubmission, own, ref, knownRef, tested, rfl⟩

end Store

end Dispatch
