import Dispatch.Proofs.Selection
import Dispatch.Proofs.Submission.Loading
import Dispatch.Proofs.Submission.Recording

/-!
# Picking tasks

What picking does, from the list of files to the recorded runs. If it succeeds, a submission is in
the store with a task for each directory that is needed; if it does not, there is at most a
submission without any work, unless the store failed.

## Main definitions

* `Picking.Selects`: the selected directories, as they follow from what the code host said.
* `Picking.Picks`: what successful picking says and does.

## Main results

* `Picking.choose_ok`: which directories are selected.
* `Picking.pick_ends`: what picking does, by how it ends.
-/

namespace Dispatch

namespace Store

/-- What a submission that is shown says about its work. -/
theorem submission_ok {s : Store} {id : Id} {x : Submission} (h : s.submission id = .ok x) :
    x.id = id ∧ x.tasks = (s.tasksOf id).length ∧ x.runs = s.countRuns id := by
  obtain ⟨stored, found, h⟩ := Except.bind_eq_ok.mp h
  obtain ⟨base, -, h⟩ := Except.bind_eq_ok.mp h
  obtain ⟨head, -, h⟩ := Except.bind_eq_ok.mp h
  obtain rfl := Except.ok.inj h
  have same := List.find?_some (expect_eq_ok.mp found)
  exact ⟨of_decide_eq_true same, rfl, rfl⟩

end Store

namespace Picking

open Operation Selection

variable {r : Resolved} {s s' : Store} {tr : Trace}

/-! ### Selecting -/

/-- The **selected directories**, as they follow from what the code host said: on a full run all
that declare a task, and else those that the changes select. -/
def Selects (r : Resolved) (tr : Trace) (selected : List String) : Prop :=
  ∃ files tasks, .host r.token (.listFiles r.fork.name r.head.sha) (.ok files) ∈ tr ∧
    (∀ dir, dir ∈ Dictionary.keys tasks ↔ DeclaresTask r.config files dir) ∧
    (r.isFullRun = true ∧ selected = tasks.keys ∨
      r.isFullRun = false ∧ ∃ changed dirs,
        (r.base.sha = r.head.sha ∧ changed = files ∨ r.base.sha ≠ r.head.sha ∧
          .host r.token (.getDiff r.parent.name r.base.sha r.head.sha) (.ok changed) ∈ tr) ∧
        changedDirectories changed = .ok dirs ∧ selected = (select tasks dirs).keys)

theorem Selects.append {tr' : Trace} {selected : List String} (h : Selects r tr selected) :
    Selects r (tr ++ tr') selected := by
  obtain ⟨files, tasks, listed, declares, h⟩ := h
  refine ⟨files, tasks, List.mem_append_left _ listed, declares, h.imp_right ?_⟩
  rintro ⟨part, changed, dirs, differ, rest⟩
  exact ⟨part, changed, dirs, differ.imp_right fun h => ⟨h.1, List.mem_append_left _ h.2⟩, rest⟩

/-- The files that are taken to have **changed**: those of the diff, and all of them where there is
nothing to compare with. -/
def changes (r : Resolved) (files : List String) : Operation (List String) :=
  if r.base.sha = r.head.sha then pure files
  else stage "computing diff" (host r.token (.getDiff r.parent.name r.base.sha r.head.sha))

theorem selection_eq (files : List String) (tasks : Directories) :
    selection r files tasks = if r.isFullRun then pure tasks else do
      let changed ← changes r files
      let dirs ← ofConfig (changedDirectories changed)
      return select tasks dirs := by
  rw [selection, changes]
  by_cases full : r.isFullRun = true
  · rw [if_pos full, if_pos full]
  · rw [if_neg full, if_neg full]
    by_cases same : r.base.sha = r.head.sha
    · simp only [if_pos same]
    · simp only [if_neg same]

theorem changes_ok {files changed : List String}
    (h : (changes r files).Ends s tr (.ok changed) s') :
    r.base.sha = r.head.sha ∧ changed = files ∨ r.base.sha ≠ r.head.sha ∧
      .host r.token (.getDiff r.parent.name r.base.sha r.head.sha) (.ok changed) ∈ tr := by
  rw [changes] at h
  split at h
  · next same =>
    obtain ⟨-, eq, -⟩ := ends_pure.mp h
    cases eq
    exact .inl ⟨same, rfl⟩
  · next differ =>
    obtain ⟨rfl, -⟩ := ends_host_ok.mp (ends_stage_ok.mp h)
    exact .inr ⟨differ, List.mem_singleton_self _⟩

theorem selection_ok {files : List String} {tasks selected : Directories}
    (h : (selection r files tasks).Ends s tr (.ok selected) s') :
    r.isFullRun = true ∧ selected = tasks ∨ r.isFullRun = false ∧ ∃ changed dirs,
      (r.base.sha = r.head.sha ∧ changed = files ∨ r.base.sha ≠ r.head.sha ∧
        .host r.token (.getDiff r.parent.name r.base.sha r.head.sha) (.ok changed) ∈ tr) ∧
      changedDirectories changed = .ok dirs ∧ selected = select tasks dirs := by
  rw [selection_eq] at h
  split at h
  · next full =>
    obtain ⟨rfl, eq, rfl⟩ := ends_pure.mp h
    cases eq
    exact .inl ⟨full, rfl⟩
  · next part =>
    refine .inr ⟨Bool.eq_false_iff.mpr part, ?_⟩
    rcases ends_bind.mp h with ⟨e, -, impossible⟩ | ⟨changed, s₁, tr₁, tr₂, first, rest, rfl⟩
    · cases impossible
    · rcases ends_bind.mp rest with ⟨e, -, impossible⟩ | ⟨dirs, s₂, tr₃, tr₄, second, last, rfl⟩
      · cases impossible
      · obtain ⟨rfl, valid, rfl⟩ := ends_ofConfig_ok.mp second
        obtain ⟨rfl, eq, rfl⟩ := ends_pure.mp last
        cases eq
        refine ⟨changed, dirs, ?_, ?_, rfl⟩
        · simpa using changes_ok first
        · exact valid

section Makes

variable {P : StoreCall → Prop} {Q : String → HostCall → Prop} {N : Notification → Prop}

/-- The code host is asked for a **diff** at most. -/
theorem makes_selection (files : List String) (tasks : Directories)
    (diff : Q r.token (.getDiff r.parent.name r.base.sha r.head.sha)) :
    Makes P Q N (selection r files tasks) := by
  rw [selection_eq]
  split
  · exact makes_pure _
  · refine makes_bind ?_ fun changed => makes_bind (makes_ofConfig _) fun _ => makes_pure _
    rw [changes]
    split
    · exact makes_pure _
    · exact makes_stage (makes_host diff)

end Makes

theorem asks_selection (files : List String) (tasks : Directories) :
    Asks StoreCall.IsLookup (fun call => call = .getDiff r.parent.name r.base.sha r.head.sha)
      (selection r files tasks) :=
  (makes_selection files tasks (Q := fun _ call => call = _) rfl).asks fun _ _ => id

/-- Picking up to the selected directories. -/
def choose (r : Resolved) : Operation Directories := do
  let files ← stage "listing files" (host r.token (.listFiles r.fork.name r.head.sha))
  let tasks ← ofConfig (taskDirectories r.config files)
  selection r files tasks

theorem choose_ok {selected : Directories} (h : (choose r).Ends s tr (.ok selected) s') :
    Selects r tr selected.keys := by
  rcases ends_bind.mp h with ⟨e, -, impossible⟩ | ⟨files, s₁, tr₁, tr₂, first, rest, rfl⟩
  · cases impossible
  · obtain ⟨rfl, rfl⟩ := ends_host_ok.mp (ends_stage_ok.mp first)
    rcases ends_bind.mp rest with ⟨e, -, impossible⟩ | ⟨tasks, s₂, tr₃, tr₄, second, last, rfl⟩
    · cases impossible
    · obtain ⟨rfl, valid, rfl⟩ := ends_ofConfig_ok.mp second
      refine ⟨files, tasks, List.mem_cons_self, fun dir => mem_taskDirectories valid, ?_⟩
      rcases selection_ok last with ⟨full, rfl⟩ | ⟨part, changed, dirs, differ, normal, rfl⟩
      · exact .inl ⟨full, rfl⟩
      · refine .inr ⟨part, changed, dirs, ?_, normal, rfl⟩
        exact differ.imp_right fun h => ⟨h.1, List.mem_cons_of_mem _ h.2⟩

/-- The calls up to the selected directories are for the **list of files** and the diff. -/
theorem makes_choose {P : StoreCall → Prop} {Q : String → HostCall → Prop}
    {N : Notification → Prop} (list : Q r.token (.listFiles r.fork.name r.head.sha))
    (diff : Q r.token (.getDiff r.parent.name r.base.sha r.head.sha)) :
    Makes P Q N (choose r) := by
  refine makes_bind (makes_stage (makes_host list)) fun files => ?_
  exact makes_bind (makes_ofConfig _) fun tasks => makes_selection files tasks diff

theorem asks_choose (r : Resolved) :
    Asks StoreCall.IsLookup (fun call => call = .listFiles r.fork.name r.head.sha ∨
      call = .getDiff r.parent.name r.base.sha r.head.sha) (choose r) :=
  (makes_choose (Q := fun _ call => call = _ ∨ call = _) (.inl rfl) (.inr rfl)).asks fun _ _ => id

/-! ### Filling a submission -/

/-- Picking from the recorded submission on. -/
def fill (limit : Nat) (r : Resolved) (selected : Directories) (submission : Submission) :
    Operation Picked := do
  match ← ExceptT.lift (load limit r selected) with
  | .error (dir, e) =>
    complain r dir e
    stage ("parsing task " ++ dir) (fail e)
  | .ok loaded =>
    let created ← loaded.entries.mapM fun (dir, settings) => createTask r submission dir settings
    return ⟨submission, created.map (·.1), (created.map (·.2)).flatten⟩

theorem pick_eq (limit : Nat) (r : Resolved) :
    pick limit r = choose r >>= fun selected =>
      stage "recording submission" (store (.createSubmission (record r))) >>= fun submission =>
        fill limit r selected submission := by
  rw [pick, choose, bind_assoc]
  refine bind_congr fun files => ?_
  rw [bind_assoc]
  rfl

/-- A complaint is a **comment**. -/
theorem makes_complain {P : StoreCall → Prop} {Q : String → HostCall → Prop}
    {N : Notification → Prop} (dir : String) (e : ConfigError)
    (comment : ∀ number text, Q r.token (.comment r.parent.name number text)) :
    Makes P Q N (complain r dir e) := by
  rw [complain]
  split
  · exact makes_bind (makes_tryHost (comment _ _)) fun _ => makes_pure _
  · exact makes_pure _

theorem asks_complain (dir : String) (e : ConfigError) :
    Asks StoreCall.IsLookup (fun call => ∃ repository number text,
      call = .comment repository number text) (complain r dir e) :=
  (makes_complain dir e (Q := fun _ call => ∃ _ _ _, call = _) fun _ _ => ⟨_, _, _, rfl⟩).asks
    fun _ _ => id

section Makes

variable {P : StoreCall → Prop} {Q : String → HostCall → Prop} {N : Notification → Prop}
  (submission : ∀ new, P (.createSubmission new)) (task : ∀ new, P (.createTask new))
  (run : ∀ new, P (.createRun new)) (list : Q r.token (.listFiles r.fork.name r.head.sha))
  (diff : Q r.token (.getDiff r.parent.name r.base.sha r.head.sha))
  (read : ∀ dir, Q r.token (.getFile r.fork.name r.head.sha (declarationPath dir)))
  (comment : ∀ number text, Q r.token (.comment r.parent.name number text))
  (pending : ∀ run, N (pendingNotice r run))

include task run read comment pending in
theorem makes_fill (limit : Nat) (selected : Directories) (x : Submission) :
    Makes P Q N (fill limit r selected x) := by
  refine makes_bind (makes_lift (makes_load read limit selected)) fun outcome => ?_
  cases outcome with
  | error failure =>
      refine makes_bind (makes_complain _ _ comment) fun _ => ?_
      exact makes_stage (makes_fail _)
  | ok loaded =>
      refine makes_bind (makes_mapM (fun entry => ?_) _) fun _ => makes_pure _
      exact makes_createTask task run pending x entry.1 entry.2

include submission task run list diff read comment pending in
/-- Picking **creates** a submission with tasks and runs, and gives notice of the runs. -/
theorem makes_pick (limit : Nat) : Makes P Q N (pick limit r) := by
  rw [pick_eq]
  refine makes_bind (makes_choose list diff) fun selected => ?_
  refine makes_bind (makes_stage (makes_store (submission _))) fun x => ?_
  exact makes_fill task run read comment pending limit selected x

end Makes

/-- A declaration that cannot be loaded is **complained about**, and then picking fails. -/
theorem refuse_ends {dir : String} {e : ConfigError} {res : Except OperationError Picked}
    (h : Ends (complain r dir e >>= fun _ => stage ("parsing task " ++ dir) (fail e)) s tr res
      s') : s' = s ∧ ∃ e', res = .error e' := by
  refine ⟨h.store_eq (asks_bind (asks_complain dir e) fun _ => asks_stage (asks_fail _)).calls, ?_⟩
  cases res with
  | error e => exact ⟨e, rfl⟩
  | ok picked =>
      obtain ⟨_, s₁, tr₁, tr₂, -, last, rfl⟩ := ends_bind_ok.mp h
      obtain ⟨-, impossible, -⟩ := ends_fail.mp (ends_stage_ok.mp last)
      cases impossible

/-- **Filling** a submission adds fresh work to the store and nothing else, and unless the store
fails it adds either all of it or nothing. -/
theorem fill_ends {limit : Nat} {selected : Directories} {submission : Submission}
    {res : Except OperationError Picked}
    (h : (fill limit r selected submission).Ends s tr res s') :
    ∃ ts runs, s' = s.addWork ts runs ∧ Store.FreshWork ts runs ∧
      ((∃ loaded created, res = .ok ⟨submission, ts, runs⟩ ∧
        (∀ d settings, Dictionary.get? loaded d = some settings ↔ Declares r tr d settings) ∧
        (∀ d, d ∈ loaded.keys ↔ Needed (· ∈ selected.keys) (DependsOn loaded) d) ∧
        List.Forall₂ (Records r submission.id) loaded.entries created ∧
        ts = created.map (·.1) ∧ runs = (created.map (·.2)).flatten) ∨
      (∃ e, res = .error e) ∧ (tr.Faultless → Recordable s r submission.id →
        ts = [] ∧ runs = [])) := by
  rcases ends_bind.mp h with ⟨e, lifted, -⟩ | ⟨one, s₁, tr₁, tr₂, lifted, rest, rfl⟩
  · exact absurd lifted not_ends_lift_error
  · have loads := ends_lift_ok.mp lifted
    obtain rfl := load_store loads
    cases one with
    | error failure =>
        obtain ⟨dir, e⟩ := failure
        obtain ⟨rfl, failed⟩ := refuse_ends rest
        exact ⟨[], [], by simp, Store.freshWork_nil, .inr ⟨failed, fun _ _ => ⟨rfl, rfl⟩⟩⟩
    | ok loaded =>
        obtain ⟨declared, needed⟩ := load_ok loads
        have valid : ∀ x ∈ loaded.entries, x.2.validate = .ok () := by
          intro x mem
          obtain ⟨bytes, -, parsed⟩ := (declared x.1 x.2).mp (Dictionary.get?_eq_some.mpr mem)
          exact TaskDeclaration.parse_valid parsed
        rcases ends_bind.mp rest with ⟨e, created, rfl⟩ | ⟨created, s₂, tr₃, tr₄, made, last, rfl⟩
        · obtain ⟨ts, runs, rfl, fresh, ⟨_, impossible, -⟩ | ⟨-, refused⟩⟩ :=
            createTasks_ends created
          · cases impossible
          · refine ⟨ts, runs, rfl, fresh, .inr ⟨⟨e, rfl⟩, fun faultless known => ?_⟩⟩
            exact absurd known (refused (Trace.faultless_append.mp faultless).2 valid)
        · obtain ⟨rfl, rfl, rfl⟩ := ends_pure.mp last
          obtain ⟨ts, runs, rfl, fresh, ⟨_, eq, rfl, rfl, all⟩ | ⟨⟨e, impossible⟩, -⟩⟩ :=
            createTasks_ends made
          · cases eq
            refine ⟨_, _, rfl, fresh, .inl ⟨loaded, created, rfl, fun d settings => ?_, needed, all,
              rfl, rfl⟩⟩
            rw [declared, List.append_nil]
            refine (declares_append fun dir reply mem => ?_).1.symm
            exact made.asked (calls_mapM (fun _ => calls_createTask ..) _) mem
          · cases impossible

/-! ### All together -/

/-- What successful **picking** says: which directories were selected, what was loaded for the
directories that are needed, and what was recorded for them. -/
structure Picks (r : Resolved) (tr : Trace) (picked : Picked) (selected : List String)
    (loaded : Dictionary TaskSettings) (created : List (Task × List Run)) : Prop where
  selects : Selects r tr selected
  declared : ∀ d settings, loaded.get? d = some settings ↔ Declares r tr d settings
  needed : ∀ d, d ∈ loaded.keys ↔ Needed (· ∈ selected) (DependsOn loaded) d
  records : List.Forall₂ (Records r picked.submission.id) loaded.entries created
  tasks : picked.tasks = created.map (·.1)
  runs : picked.runs = (created.map (·.2)).flatten

/-- What happens later without reading any declaration makes no difference. -/
theorem Picks.append {tr' : Trace} {picked : Picked} {selected : List String}
    {loaded : Dictionary TaskSettings} {created : List (Task × List Run)}
    (h : Picks r tr picked selected loaded created)
    (silent : ∀ dir reply, fileRead r dir reply ∉ tr') :
    Picks r (tr ++ tr') picked selected loaded created :=
  { h with
    selects := h.selects.append
    declared := fun d settings => by rw [h.declared, (declares_append silent).1] }

/-- Each task is **recorded** for one of the directories. -/
theorem Picks.recordedTasks {picked : Picked} {selected : List String}
    {loaded : Dictionary TaskSettings} {created : List (Task × List Run)}
    (h : Picks r tr picked selected loaded created) :
    List.Forall₂ (fun entry t => Task.RecordedFor r picked.submission.id entry.1 entry.2 t)
      loaded.entries picked.tasks := by
  rw [h.tasks]
  exact List.forall₂_map_right_iff.mpr (h.records.imp fun _ _ one => one.1)

/-- Recording a submission adds it or leaves the store as it is. -/
theorem createSubmission_ends {name : String} {new : NewSubmission}
    {res : Except OperationError Submission}
    (h : Ends (stage name (store (.createSubmission new))) s tr res s') :
    (∀ token call reply, Event.host token call reply ∉ tr) ∧
      ((∃ e, res = .error e) ∧ s' = s ∨ ∃ now, s' = s.addSubmission now new ∧
        ((∃ e, res = .error e) ∨
          ∃ x, res = .ok x ∧ x.id = (s.newSubmission now new).id)) := by
  refine ⟨fun token call reply mem => ?_, ?_⟩
  · exact h.asked (P := fun _ => True) (Q := fun _ => False) (calls_stage (calls_store trivial)) mem
  · cases res with
    | error e =>
        obtain ⟨cause, stored, rfl⟩ := ends_stage_error.mp h
        obtain ⟨e, -, ⟨now, effect, rfl⟩ | ⟨rfl, rfl⟩⟩ := ends_store_error.mp stored
        · rcases Store.createSubmission_cases now new s with ⟨-, e', failed⟩ | ⟨-, -, added⟩
          · cases failed.symm.trans effect
            exact .inl ⟨⟨_, rfl⟩, rfl⟩
          · have same := congrArg Prod.snd (added.symm.trans effect)
            exact .inr ⟨now, same.symm, .inl ⟨_, rfl⟩⟩
        · exact .inl ⟨⟨_, rfl⟩, rfl⟩
    | ok x =>
        obtain ⟨now, effect, rfl⟩ := ends_store_ok.mp (ends_stage_ok.mp h)
        rcases Store.createSubmission_cases now new s with ⟨-, e', failed⟩ | ⟨-, -, added⟩
        · cases failed.symm.trans effect
        · have both := added.symm.trans effect
          have shown := Store.submission_ok (congrArg Prod.fst both)
          exact .inr ⟨now, (congrArg Prod.snd both).symm, .inr ⟨x, rfl, shown.1⟩⟩

/-- **Picking** leaves the store as it is, or it adds a submission with fresh work for it. Unless
the store fails it adds either all the work or none. -/
theorem pick_ends {limit : Nat} {res : Except OperationError Picked}
    (h : (pick limit r).Ends s tr res s') :
    ((∃ e, res = .error e) ∧ s' = s) ∨
    ∃ now ts runs, s' = (s.addSubmission now (record r)).addWork ts runs ∧
      Store.FreshWork ts runs ∧
      ((∃ x selected loaded created, res = .ok ⟨x, ts, runs⟩ ∧
        x.id = (s.newSubmission now (record r)).id ∧
        Picks r tr ⟨x, ts, runs⟩ selected loaded created) ∨
      (∃ e, res = .error e) ∧ (tr.Faultless → r.parent.id ∈ s.repositories.map (·.id) →
        ts = [] ∧ runs = [])) := by
  rw [pick_eq] at h
  rcases ends_bind.mp h with ⟨e, chosen, rfl⟩ | ⟨selected, s₁, tr₁, tr₂, chosen, rest, rfl⟩
  · exact .inl ⟨⟨e, rfl⟩, chosen.store_eq (asks_choose r).calls⟩
  · obtain rfl := chosen.store_eq (asks_choose r).calls
    rcases ends_bind.mp rest with ⟨e, recorded, rfl⟩ | ⟨x, s₂, tr₃, tr₄, recorded, last, rfl⟩
    · obtain ⟨-, ⟨-, rfl⟩ | ⟨now, rfl, -⟩⟩ := createSubmission_ends recorded
      · exact .inl ⟨⟨e, rfl⟩, rfl⟩
      · exact .inr ⟨now, [], [], by simp, Store.freshWork_nil,
          .inr ⟨⟨e, rfl⟩, fun _ _ => ⟨rfl, rfl⟩⟩⟩
    · obtain ⟨silent, ⟨⟨e, impossible⟩, -⟩ | ⟨now, rfl, ⟨e, impossible⟩ | ⟨x', eq, own⟩⟩⟩ :=
        createSubmission_ends recorded
      · cases impossible
      · cases impossible
      · cases eq
        obtain ⟨ts, runs, rfl, fresh, filled⟩ := fill_ends last
        refine .inr ⟨now, ts, runs, rfl, fresh, ?_⟩
        rcases filled with ⟨loaded, created, rfl, declared, needed, all, rfl, rfl⟩ | ⟨failed, whole⟩
        · refine .inl ⟨x, selected.keys, loaded, created, rfl, own, ?_, fun d settings => ?_,
            needed, all, rfl, rfl⟩
          · exact (choose_ok chosen).append
          · rw [declared, ← List.append_assoc]
            refine (declares_append fun dir reply mem => ?_).2.symm
            rcases List.mem_append.mp mem with early | late
            · rcases chosen.asked (asks_choose r).calls early with impossible | impossible
              · cases impossible
              · cases impossible
            · exact silent _ _ _ late
        · refine .inr ⟨failed, fun faultless known => ?_⟩
          simp only [Trace.faultless_append] at faultless
          refine whole faultless.2.2 ⟨?_, known⟩
          rw [own]
          simp [Store.addSubmission]

end Picking

end Dispatch
