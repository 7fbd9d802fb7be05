import Dispatch.Proofs.Coherence
import Dispatch.Proofs.Conduct
import Dispatch.Proofs.Declaration
import Mathlib.Data.List.Forall2

/-!
# Recording tasks and runs

Once the declarations are loaded, a task is recorded for each directory and a run for each run
that is declared there. Wherever this ends, what is in the store afterwards is more work and
nothing else; and it ends only after the last run unless the store fails, because what was read
from declarations is fit to be stored.

## Main definitions

* `Task.RecordedFor`, `Run.RecordedFor`: the records of a directory and of a declared run.
* `Picking.Records`: the tasks and runs recorded for loaded declarations.

## Main results

* `Picking.createTasks_ends`: what recording does, wherever it ends.
-/

namespace List.Forall₂

variable {α β : Type} {R S : α → β → Prop} {l : List α} {l' : List β}

/-- A relation between the members of two lists may use that they are members. -/
theorem imp_of_mem (h : Forall₂ R l l') (imp : ∀ a ∈ l, ∀ b ∈ l', R a b → S a b) :
    Forall₂ S l l' := by
  obtain ⟨length, all⟩ := forall₂_iff_zip.mp h
  refine forall₂_iff_zip.mpr ⟨length, fun {a b} mem => ?_⟩
  have within := of_mem_zip mem
  exact imp a within.1 b within.2 (all mem)

/-- What is related to the members of a list is related to one of them each. -/
theorem exists_of_mem_right (h : Forall₂ R l l') {b : β} (mem : b ∈ l') : ∃ a ∈ l, R a b := by
  induction h with
  | nil => cases mem
  | cons first _ ih =>
      rcases mem_cons.mp mem with rfl | later
      · exact ⟨_, mem_cons_self, first⟩
      · obtain ⟨a, known, related⟩ := ih later
        exact ⟨a, mem_cons_of_mem _ known, related⟩

end List.Forall₂

namespace Dispatch

/-- The **run that is recorded** for a task from a declaration in a directory. -/
structure Run.RecordedFor (task : Id) (dir : String) (settings : RunSettings) (r : Run) : Prop
    extends r.Fresh where
  task : r.task = task
  name : r.name = Run.displayName dir settings.name
  settings : r.settings = settings

/-- The **task that is recorded** for a directory of a submission. -/
structure Task.RecordedFor (r : Resolved) (submission : Id) (dir : String)
    (settings : TaskSettings) (t : Task) : Prop extends t.Fresh where
  submission : t.submission = submission
  repository : t.repository = r.parent.id
  path : t.path = dir
  settings : t.settings = settings
  pullRequest : t.pullRequest = r.ticket

namespace Store

@[simp] theorem addWork_nil (s : Store) : s.addWork [] [] = s := by
  simp [addWork]

@[simp] theorem addWork_addWork (s : Store) (ts ts' : List Task) (rs rs' : List Run) :
    (s.addWork ts rs).addWork ts' rs' = s.addWork (ts ++ ts') (rs ++ rs') := by
  simp [addWork]

/-- Tasks and runs that come **fresh and together**: each run is for one of the tasks. -/
def FreshWork (ts : List Task) (rs : List Run) : Prop :=
  (∀ t ∈ ts, t.Fresh) ∧ ∀ r ∈ rs, r.Fresh ∧ r.task ∈ ts.map (·.id)

theorem freshWork_nil : FreshWork [] [] := by
  simp [FreshWork]

theorem FreshWork.append {ts ts' : List Task} {rs rs' : List Run} (h : FreshWork ts rs)
    (h' : FreshWork ts' rs') : FreshWork (ts ++ ts') (rs ++ rs') := by
  refine ⟨List.forall_mem_append.mpr ⟨h.1, h'.1⟩, List.forall_mem_append.mpr ⟨?_, ?_⟩⟩
  · intro r mem
    exact ⟨(h.2 r mem).1, mem_map_append (h.2 r mem).2⟩
  · intro r mem
    refine ⟨(h'.2 r mem).1, ?_⟩
    rw [List.map_append]
    exact List.mem_append_right _ (h'.2 r mem).2

end Store

namespace Picking

open Operation

variable {r : Resolved} {s s' : Store} {tr : Trace}

/-! ### Runs -/

/-- Storing a run adds it, unless the store fails, the run is not valid or its task is not there;
then it adds nothing. -/
theorem storeRun_ends {task : Id} {dir : String} {settings : RunSettings}
    {res : Except OperationError Run}
    (h : Ends (ofDomain (NewRun.validate ⟨task, Run.displayName dir settings.name, settings⟩) >>=
      fun _ => store (.createRun ⟨task, Run.displayName dir settings.name, settings⟩)) s tr res
        s') :
    (∃ run, res = .ok run ∧ run.RecordedFor task dir settings ∧ s' = s.addWork [] [run]) ∨
      (∃ e, res = .error e) ∧ s' = s ∧ (tr.Faultless → settings.validate = .ok () →
        task ∉ s.tasks.map (·.id)) := by
  rw [NewRun.validate_displayName] at h
  rcases ends_bind.mp h with ⟨e, checked, rfl⟩ | ⟨_, s₁, tr₁, tr₂, checked, stored, rfl⟩
  · obtain ⟨rfl, failed, rfl⟩ := ends_ofDomain.mp checked
    refine .inr ⟨⟨e, rfl⟩, rfl, fun _ valid => ?_⟩
    rw [valid] at failed
    cases failed
  · obtain ⟨rfl, -, rfl⟩ := ends_ofDomain.mp checked
    rcases ends_store.mp stored with
      ⟨now, run, effect, rfl, rfl⟩ | ⟨now, e, effect, rfl, rfl⟩ | ⟨e, rfl, rfl, rfl⟩
    · rcases Store.createRun_cases now ⟨task, Run.displayName dir settings.name, settings⟩ s₁ with
        ⟨-, e, failed⟩ | ⟨-, added⟩
      · cases failed.symm.trans effect
      · cases added.symm.trans effect
        exact .inl ⟨_, rfl, ⟨⟨rfl, rfl, rfl⟩, rfl, rfl, rfl⟩, by simp [Store.addWork]⟩
    · rcases Store.createRun_cases now ⟨task, Run.displayName dir settings.name, settings⟩ s₁ with
        ⟨refused, e, failed⟩ | ⟨-, added⟩
      · cases failed.symm.trans effect
        refine .inr ⟨⟨_, rfl⟩, rfl, fun _ valid known => refused ⟨?_, known⟩⟩
        rw [NewRun.validate_displayName]
        exact valid
      · cases added.symm.trans effect
    · exact .inr ⟨⟨_, rfl⟩, rfl, fun faultless => absurd faultless (by simp)⟩

/-- Creating a run stores it and gives notice of it. -/
theorem createRun_ends {task : Task} {dir : String} {settings : RunSettings}
    {res : Except OperationError Run} (h : (createRun r task dir settings).Ends s tr res s') :
    (∃ run, res = .ok run ∧ run.RecordedFor task.id dir settings ∧ s' = s.addWork [] [run]) ∨
      (∃ e, res = .error e) ∧ s' = s ∧ (tr.Faultless → settings.validate = .ok () →
        task.id ∉ s.tasks.map (·.id)) := by
  rw [createRun] at h
  rcases ends_bind.mp h with ⟨e, staged, rfl⟩ | ⟨run, s₁, tr₁, tr₂, staged, rest, rfl⟩
  · obtain ⟨cause, stored, -⟩ := ends_stage_error.mp staged
    rcases storeRun_ends stored with ⟨run, impossible, -⟩ | ⟨-, unchanged, refused⟩
    · cases impossible
    · exact .inr ⟨⟨_, rfl⟩, unchanged, refused⟩
  · rcases storeRun_ends (ends_stage_ok.mp staged) with
      ⟨run', eq, recorded, rfl⟩ | ⟨⟨e, impossible⟩, -⟩
    · cases eq
      rcases ends_bind.mp rest with ⟨e, noticed, -⟩ | ⟨_, s₂, tr₃, tr₄, noticed, last, rfl⟩
      · exact absurd noticed not_ends_notify_error
      · obtain ⟨rfl, -, rfl⟩ := ends_notify.mp noticed
        obtain ⟨rfl, rfl, rfl⟩ := ends_pure.mp last
        exact .inl ⟨run, rfl, recorded, rfl⟩
    · cases impossible

/-- Creating the runs of a task. -/
theorem createRuns_ends {task : Task} {dir : String} {l : List RunSettings}
    {res : Except OperationError (List Run)}
    (h : Ends (l.mapM (createRun r task dir)) s tr res s') :
    ∃ runs, s' = s.addWork [] runs ∧ (∀ run ∈ runs, run.Fresh ∧ run.task = task.id) ∧
      (res = .ok runs ∧ List.Forall₂ (fun x run => run.RecordedFor task.id dir x) l runs ∨
        (∃ e, res = .error e) ∧ (tr.Faultless → (∀ x ∈ l, x.validate = .ok ()) →
          task.id ∉ s.tasks.map (·.id))) := by
  induction l generalizing s tr res with
  | nil =>
      obtain ⟨rfl, rfl, rfl⟩ := ends_pure.mp h
      exact ⟨[], by simp, by simp, .inl ⟨rfl, .nil⟩⟩
  | cons x l ih =>
      rw [List.mapM_cons] at h
      rcases ends_bind.mp h with ⟨e, first, rfl⟩ | ⟨run, s₁, tr₁, tr₂, first, rest, rfl⟩
      · rcases createRun_ends first with ⟨run, impossible, -⟩ | ⟨-, rfl, refused⟩
        · cases impossible
        · refine ⟨[], by simp, by simp, .inr ⟨⟨e, rfl⟩, fun faultless valid => ?_⟩⟩
          exact refused faultless (valid x List.mem_cons_self)
      · rcases createRun_ends first with ⟨run', eq, recorded, rfl⟩ | ⟨⟨e, impossible⟩, -⟩
        · cases eq
          rcases ends_bind.mp rest with ⟨e, later, rfl⟩ | ⟨runs, s₂, tr₃, tr₄, later, last, rfl⟩
          · obtain ⟨runs, rfl, fresh, ⟨impossible, -⟩ | ⟨-, refused⟩⟩ := ih later
            · cases impossible
            · refine ⟨run :: runs, by simp, List.forall_mem_cons.mpr
                ⟨⟨recorded.toFresh, recorded.task⟩, fresh⟩, .inr ⟨⟨e, rfl⟩, ?_⟩⟩
              intro faultless valid
              have known := refused (Trace.faultless_append.mp faultless).2
                (List.forall_mem_cons.mp valid).2
              simpa [Store.addWork] using known
          · obtain ⟨rfl, rfl, rfl⟩ := ends_pure.mp last
            obtain ⟨runs', rfl, fresh, ⟨eq, all⟩ | ⟨⟨e, impossible⟩, -⟩⟩ := ih later
            · cases eq
              exact ⟨run :: runs, by simp, List.forall_mem_cons.mpr
                ⟨⟨recorded.toFresh, recorded.task⟩, fresh⟩, .inl ⟨rfl, .cons recorded all⟩⟩
            · cases impossible
        · cases impossible

/-! ### Tasks -/

/-- What is **recorded for a directory**: its task with the runs of the declaration. -/
def Records (r : Resolved) (submission : Id) (declared : String × TaskSettings)
    (recorded : Task × List Run) : Prop :=
  recorded.1.RecordedFor r submission declared.1 declared.2 ∧
    List.Forall₂ (fun x run => run.RecordedFor recorded.1.id declared.1 x)
      declared.2.runs.values recorded.2

/-- The submission and the repository that tasks are recorded for are there. -/
structure Recordable (s : Store) (r : Resolved) (submission : Id) : Prop where
  submission : submission ∈ s.submissions.map (·.id)
  repository : r.parent.id ∈ s.repositories.map (·.id)

/-- Storing a task adds it, unless the store fails, the settings are not valid or the submission or
the repository is not there; then it adds nothing. -/
theorem storeTask_ends {submission : Id} {dir : String} {settings : TaskSettings}
    {res : Except OperationError Task}
    (h : Ends (store (.createTask ⟨submission, r.parent.id, dir, settings, r.ticket⟩)) s tr res
      s') :
    (∃ t, res = .ok t ∧ t.RecordedFor r submission dir settings ∧ s' = s.addWork [t] []) ∨
      (∃ e, res = .error e) ∧ s' = s ∧ (tr.Faultless → settings.validate = .ok () →
        ¬ Recordable s r submission) := by
  rcases ends_store.mp h with
    ⟨now, t, effect, rfl, rfl⟩ | ⟨now, e, effect, rfl, rfl⟩ | ⟨e, rfl, rfl, rfl⟩
  · rcases Store.createTask_cases now ⟨submission, r.parent.id, dir, settings, r.ticket⟩ s with
      ⟨-, e, failed⟩ | ⟨-, added⟩
    · cases failed.symm.trans effect
    · cases added.symm.trans effect
      exact .inl ⟨_, rfl, ⟨⟨rfl, rfl, rfl, rfl⟩, rfl, rfl, rfl, rfl, rfl⟩, by simp [Store.addWork]⟩
  · rcases Store.createTask_cases now ⟨submission, r.parent.id, dir, settings, r.ticket⟩ s with
      ⟨refused, e, failed⟩ | ⟨-, added⟩
    · cases failed.symm.trans effect
      refine .inr ⟨⟨_, rfl⟩, rfl, fun _ valid known => ?_⟩
      exact refused ⟨valid, known.submission, known.repository⟩
    · cases added.symm.trans effect
  · exact .inr ⟨⟨_, rfl⟩, rfl, fun faultless => absurd faultless (by simp)⟩

/-- Creating a task stores it with its runs. -/
theorem createTask_ends {submission : Submission} {dir : String} {settings : TaskSettings}
    {res : Except OperationError (Task × List Run)}
    (h : (createTask r submission dir settings).Ends s tr res s') :
    ∃ ts runs, s' = s.addWork ts runs ∧ Store.FreshWork ts runs ∧
      ((∃ t, res = .ok (t, runs) ∧ ts = [t] ∧
        Records r submission.id (dir, settings) (t, runs)) ∨
      (∃ e, res = .error e) ∧ (tr.Faultless → settings.validate = .ok () →
        ¬ Recordable s r submission.id)) := by
  rw [createTask] at h
  rcases ends_bind.mp h with ⟨e, staged, rfl⟩ | ⟨t, s₁, tr₁, tr₂, staged, rest, rfl⟩
  · obtain ⟨cause, stored, -⟩ := ends_stage_error.mp staged
    rcases storeTask_ends stored with ⟨t, impossible, -⟩ | ⟨-, rfl, refused⟩
    · cases impossible
    · exact ⟨[], [], by simp, Store.freshWork_nil, .inr ⟨⟨e, rfl⟩, refused⟩⟩
  · rcases storeTask_ends (ends_stage_ok.mp staged) with
      ⟨t', eq, recorded, rfl⟩ | ⟨⟨e, impossible⟩, -⟩
    · cases eq
      have fresh {runs : List Run} (h : ∀ run ∈ runs, run.Fresh ∧ run.task = t.id) :
          Store.FreshWork [t] runs := by
        refine ⟨List.forall_mem_singleton.mpr recorded.toFresh, fun run mem => ?_⟩
        exact ⟨(h run mem).1, List.mem_singleton.mpr (h run mem).2⟩
      rcases ends_bind.mp rest with ⟨e, created, rfl⟩ | ⟨runs, s₂, tr₃, tr₄, created, last, rfl⟩
      · obtain ⟨runs, rfl, own, ⟨impossible, -⟩ | ⟨-, refused⟩⟩ := createRuns_ends created
        · cases impossible
        · refine ⟨[t], runs, by simp, fresh own, .inr ⟨⟨e, rfl⟩, fun faultless valid => ?_⟩⟩
          have missing := refused (Trace.faultless_append.mp faultless).2
            (TaskSettings.run_valid valid)
          simp [Store.addWork] at missing
      · obtain ⟨rfl, rfl, rfl⟩ := ends_pure.mp last
        obtain ⟨runs', rfl, own, ⟨eq, all⟩ | ⟨⟨e, impossible⟩, -⟩⟩ := createRuns_ends created
        · cases eq
          exact ⟨[t], runs, by simp, fresh own, .inl ⟨t, rfl, rfl, recorded, all⟩⟩
        · cases impossible
    · cases impossible

/-- **Recording** the tasks of directories adds fresh work to the store and nothing else. Unless
the store fails, it is recorded for all of them if their settings are valid. -/
theorem createTasks_ends {submission : Submission} {l : List (String × TaskSettings)}
    {res : Except OperationError (List (Task × List Run))}
    (h : Ends (l.mapM fun (dir, settings) => createTask r submission dir settings) s tr res s') :
    ∃ ts runs, s' = s.addWork ts runs ∧ Store.FreshWork ts runs ∧
      ((∃ created, res = .ok created ∧ ts = created.map (·.1) ∧
        runs = (created.map (·.2)).flatten ∧ List.Forall₂ (Records r submission.id) l created) ∨
      (∃ e, res = .error e) ∧ (tr.Faultless → (∀ x ∈ l, x.2.validate = .ok ()) →
        ¬ Recordable s r submission.id)) := by
  induction l generalizing s tr res with
  | nil =>
      obtain ⟨rfl, rfl, rfl⟩ := ends_pure.mp h
      exact ⟨[], [], by simp, Store.freshWork_nil, .inl ⟨[], rfl, rfl, rfl, .nil⟩⟩
  | cons x l ih =>
      rw [List.mapM_cons] at h
      rcases ends_bind.mp h with ⟨e, first, rfl⟩ | ⟨one, s₁, tr₁, tr₂, first, rest, rfl⟩
      · obtain ⟨ts, runs, rfl, fresh, ⟨t, impossible, -⟩ | ⟨-, refused⟩⟩ := createTask_ends first
        · cases impossible
        · refine ⟨ts, runs, rfl, fresh, .inr ⟨⟨e, rfl⟩, fun faultless valid => ?_⟩⟩
          exact refused faultless (valid x List.mem_cons_self)
      · obtain ⟨ts, runs, rfl, fresh, ⟨t, eq, rfl, recorded⟩ | ⟨⟨e, impossible⟩, -⟩⟩ :=
          createTask_ends first
        · cases eq
          rcases ends_bind.mp rest with ⟨e, later, rfl⟩ | ⟨created, s₂, tr₃, tr₄, later, last, rfl⟩
          · obtain ⟨ts, runs', rfl, fresh', ⟨_, impossible, -⟩ | ⟨-, refused⟩⟩ := ih later
            · cases impossible
            · refine ⟨t :: ts, runs ++ runs', by simp, fresh.append fresh', .inr ⟨⟨e, rfl⟩, ?_⟩⟩
              intro faultless valid known
              exact refused (Trace.faultless_append.mp faultless).2
                (List.forall_mem_cons.mp valid).2 ⟨known.submission, known.repository⟩
          · obtain ⟨rfl, rfl, rfl⟩ := ends_pure.mp last
            obtain ⟨ts, runs', rfl, fresh', ⟨_, eq, rfl, rfl, all⟩ | ⟨⟨e, impossible⟩, -⟩⟩ :=
              ih later
            · cases eq
              exact ⟨t :: created.map (·.1), runs ++ (created.map (·.2)).flatten, by simp,
                fresh.append fresh', .inl ⟨(t, runs) :: created, rfl, rfl, rfl, .cons recorded all⟩⟩
            · cases impossible
        · cases impossible

/-- Recording **creates** a task and runs, and gives notice of these. -/
theorem makes_createTask {P : StoreCall → Prop} {Q : String → HostCall → Prop}
    {N : Notification → Prop} (task : ∀ new, P (.createTask new)) (run : ∀ new, P (.createRun new))
    (pending : ∀ run, N (pendingNotice r run)) (submission : Submission) (dir : String)
    (settings : TaskSettings) : Makes P Q N (createTask r submission dir settings) := by
  refine makes_bind (makes_stage (makes_store (task _))) fun t => ?_
  refine makes_bind (makes_mapM (fun x => ?_) _) fun _ => makes_pure _
  refine makes_bind (makes_stage ?_) fun run => makes_bind (makes_notify (pending run)) fun _ =>
    makes_pure _
  exact makes_bind (makes_ofDomain _) fun _ => makes_store (run _)

/-- Recording asks nothing of the code host. -/
theorem calls_createTask (submission : Submission) (dir : String) (settings : TaskSettings) :
    Calls (fun _ => True) (fun _ => False) (createTask r submission dir settings) :=
  (makes_createTask (Q := fun _ _ => False) (N := AnyNotice) (fun _ => trivial) (fun _ => trivial)
    (fun _ => trivial) submission dir settings).calls fun _ _ => id

end Picking

end Dispatch
