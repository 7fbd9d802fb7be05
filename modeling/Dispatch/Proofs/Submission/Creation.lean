import Dispatch.Proofs.History
import Dispatch.Proofs.Text.ByteOrder

/-!
# What a submission creates

Where the store does not fail, a submission that is taken in successfully adds one record of
itself, one task for each directory that is needed, and one run for each run that is declared
there. The runs are put at the end of the queue in the order of their directories and names.

## Main definitions

* `Picking.declaredRuns`: the declared runs in this order.
* `Intake.Creates`: what is added for them.

## Main results

* `Picking.declaredRuns_ordered`: the declared runs are in the order of the bytes of their
  directories and names.
* `Intake.submit_creates`: this is what a successful submission adds.
-/

namespace Dispatch

/-! ### Declared runs -/

/-- A **run that is declared** in a directory. -/
structure DeclaredRun where
  dir : String
  name : String
  settings : RunSettings

namespace DeclaredRun

/-- The order of the directories and, within one, of the names, byte by byte. -/
def Before (a b : DeclaredRun) : Prop :=
  Text.encodeUtf8 a.dir < Text.encodeUtf8 b.dir ∨
    a.dir = b.dir ∧ Text.encodeUtf8 a.name < Text.encodeUtf8 b.name

/-- The run that is **created** for a declared one. It belongs to the task of the directory. -/
structure CreatedAs (d : DeclaredRun) (tasks : List Task) (r : Run) : Prop extends r.Fresh where
  task : ∃ t ∈ tasks, t.path = d.dir ∧ r.task = t.id
  name : r.name = Run.displayName d.dir d.name
  settings : r.settings = d.settings

end DeclaredRun

namespace Picking

/-- The runs that are **declared** in one directory. -/
def declaredIn (dir : String) (settings : TaskSettings) : List DeclaredRun :=
  settings.runs.entries.map fun (name, run) => ⟨dir, name, run⟩

/-- All declared runs. -/
def declaredRuns (loaded : Dictionary TaskSettings) : List DeclaredRun :=
  loaded.entries.flatMap fun (dir, settings) => declaredIn dir settings

/-- They are **in order**, and so none is declared twice. -/
theorem declaredRuns_ordered (loaded : Dictionary TaskSettings) :
    (declaredRuns loaded).Pairwise DeclaredRun.Before := by
  refine List.pairwise_flatMap.mpr ⟨fun entry _ => ?_, loaded.ascending.imp fun {a b} lt => ?_⟩
  · refine List.pairwise_map.mpr (entry.2.runs.ascending.imp fun {a b} lt => .inr ⟨rfl, ?_⟩)
    exact Text.encodeUtf8_lt_iff.mpr lt
  · intro d mem d' mem'
    obtain ⟨x, -, rfl⟩ := List.mem_map.mp mem
    obtain ⟨x', -, rfl⟩ := List.mem_map.mp mem'
    exact .inl (Text.encodeUtf8_lt_iff.mpr lt)

namespace Picks

variable {r : Resolved} {tr : Trace} {picked : Picked} {selected : List String}
  {loaded : Dictionary TaskSettings} {created : List (Task × List Run)}

/-- What has been loaded keeps each run under its own name. -/
theorem named (h : Picks r tr picked selected loaded created) :
    ∀ entry ∈ loaded.entries, entry.2.Named := by
  intro entry mem
  obtain ⟨bytes, -, parsed⟩ := (h.declared entry.1 entry.2).mp (Dictionary.get?_eq_some.mpr mem)
  exact TaskDeclaration.parse_named parsed

/-- The runs are **created** for the declared ones, one by one. -/
theorem createdRuns (h : Picks r tr picked selected loaded created) :
    List.Forall₂ (fun d run => d.CreatedAs picked.tasks run) (declaredRuns loaded)
      picked.runs := by
  rw [h.tasks, h.runs]
  refine List.rel_flatten (List.forall₂_map_left_iff.mpr (List.forall₂_map_right_iff.mpr ?_))
  refine h.records.imp_of_mem fun entry mem made known recorded => ?_
  refine List.forall₂_map_left_iff.mpr ?_
  refine (List.forall₂_map_left_iff.mp recorded.2).imp_of_mem fun x memRun run _ one => ?_
  refine ⟨one.toFresh, ⟨made.1, List.mem_map_of_mem known, recorded.1.path, one.task⟩, ?_,
    one.settings⟩
  rw [one.name, h.named entry mem x memRun]

end Picks

end Picking

namespace Store

variable {s s' : Store} {ts : List Task} {rs : List Run}

/-! ### Reading the new records back -/

/-- A new submission has **exactly the tasks** that were added for it. -/
theorem tasksOf_eq (old : List Task) {submission : Id} (tasks : s'.tasks = old ++ ts)
    (others : ∀ t ∈ old, t.submission ≠ submission) (own : ∀ t ∈ ts, t.submission = submission) :
    s'.tasksOf submission = ts := by
  rw [tasksOf, tasks, List.filter_append, List.filter_eq_nil_iff.mpr, List.nil_append,
    List.filter_eq_self.mpr]
  · exact fun t mem => decide_eq_true (own t mem)
  · exact fun t mem same => others t mem (of_decide_eq_true same)

/-- And so it has exactly the runs that were added for these tasks. -/
theorem countRuns_eq (old : List Run) {submission : Id} (runs : s'.runs = old ++ rs)
    (tasks : s'.tasksOf submission = ts) (others : ∀ r ∈ old, r.task ∉ ts.map (·.id))
    (own : ∀ r ∈ rs, r.task ∈ ts.map (·.id)) : s'.countRuns submission = rs.length := by
  rw [countRuns, tasks, runs, List.countP_append, List.countP_eq_zero.mpr, Nat.zero_add,
    List.countP_eq_length.mpr]
  · exact fun r mem => List.contains_iff_mem.mpr (own r mem)
  · exact fun r mem known => others r mem (List.contains_iff_mem.mp known)

/-- When work is added for a new submission, this is **all the work** that the submission has. -/
theorem Integrity.new_work (whole : s.Integrity) (whole' : s'.Integrity)
    (tasks : s'.tasks = s.tasks ++ ts) (runs : s'.runs = s.runs ++ rs) (fresh : FreshWork ts rs)
    {submission : Id} (new : submission ∉ s.submissions.map (·.id))
    (own : ∀ t ∈ ts, t.submission = submission) :
    s'.tasksOf submission = ts ∧ s'.countRuns submission = rs.length := by
  have apart := List.nodup_append'.mp (List.map_append ▸ tasks ▸ whole'.tasks.nodup)
  have exact : s'.tasksOf submission = ts := by
    refine tasksOf_eq s.tasks tasks (fun t mem same => new ?_) own
    rw [← same]
    exact whole.taskSubmission t mem
  refine ⟨exact, countRuns_eq s.runs runs exact (fun q mem => ?_) fun q mem => ?_⟩
  · exact apart.2.2 (whole.runTask q mem)
  · exact (fresh.2 q mem).2

/-- The items of a batch of runs show them, and that nobody has claimed them. -/
theorem Integrity.shows_newItems (whole : s.Integrity) (known : ∀ r ∈ rs, r ∈ s.runs)
    {position : Nat} {shown : List QueueItem}
    (h : s.Shows (newItems position (rs.map fun r => ⟨r.id, r.settings.queue⟩)) shown) :
    shown.map (·.run) = rs ∧ ∀ x ∈ shown, x.running = false ∧ x.runningOn = none ∧
      x.startedAt = none ∧ x.queue = x.run.settings.queue := by
  induction rs generalizing position shown with
  | nil =>
      cases h
      exact ⟨rfl, by simp⟩
  | cons r rest ih =>
      obtain ⟨first, others⟩ := List.forall_mem_cons.mp known
      obtain ⟨x, later, ⟨run, found, rfl⟩, shows, rfl⟩ := List.forall₂_cons_left_iff.mp h
      obtain rfl : run = r :=
        Option.some.inj (found.symm.trans (whole.run?_eq_some.mpr ⟨first, rfl⟩))
      obtain ⟨runs, waiting⟩ := ih others shows
      refine ⟨?_, List.forall_mem_cons.mpr ⟨⟨rfl, rfl, rfl, rfl⟩, waiting⟩⟩
      rw [List.map_cons, runs]
      rfl

end Store

/-! ### Taking a submission in -/

namespace Intake

open Operation Picking

/-- What a successful submission **creates** for the loaded declarations: tasks and runs, and what
it answers. -/
structure Creates (request : SubmissionRequest) (r : Resolved) (loaded : Dictionary TaskSettings)
    (ts : List Task) (rs : List Run) (result : Submitted) (s s' : Store) : Prop where
  /-- One submission is added. -/
  submission : ∃ x, s'.submissions = s.submissions ++ [x] ∧ x.id = result.submission.id
  /-- The tasks are added to those that were there, of which some may have been canceled. -/
  addedTasks : ∃ old, s'.tasks = old ++ ts ∧ old.map (·.id) = s.tasks.map (·.id)
  addedRuns : ∃ old, s'.runs = old ++ rs ∧ old.map (·.id) = s.runs.map (·.id)
  /-- There is one task for each directory. -/
  tasks : List.Forall₂ (fun (dir, settings) t =>
    Task.RecordedFor r result.submission.id dir settings t) loaded.entries ts
  pullRequest : ∀ t ∈ ts, t.pullRequest = request.pullRequest
  /-- There is one run for each declared run, in the same order. -/
  runs : List.Forall₂ (fun d run => d.CreatedAs ts run) (declaredRuns loaded) rs
  /-- The answer shows each run once, and that nobody has claimed it. -/
  items : result.items.map (·.run) = rs
  waiting : ∀ x ∈ result.items, x.running = false ∧ x.runningOn = none ∧ x.startedAt = none ∧
    x.queue = x.run.settings.queue
  /-- The items are the last ones of the queue. -/
  queue : ∃ old new, s'.queue = old ++ new ∧ (∀ i ∈ old, i ∈ s.queue) ∧
    List.Forall₂ (fun i x => s'.queueItem i = .ok x) new result.items
  countTasks : result.submission.tasks = loaded.size
  countRuns : result.submission.runs = result.items.length

variable {s s' : Store} {tr : Trace} {limit : Nat} {request : SubmissionRequest} {r : Resolved}

/-- **Starting** a resolved submission with success creates all of its work. -/
theorem start_creates {result : Submitted} (h : (start limit r).Ends s tr (.ok result) s')
    (faultless : tr.Faultless) (whole : s.Integrity) (ticket : r.ticket = request.pullRequest) :
    ∃ selected loaded ts rs, Selects r tr selected ∧
      (∀ d settings, Dictionary.get? loaded d = some settings ↔ Declares r tr d settings) ∧
      (∀ d, d ∈ loaded.keys ↔ Needed (· ∈ selected) (DependsOn loaded) d) ∧
      Creates request r loaded ts rs result s s' := by
  have whole' := h.integrity whole
  cases start_ends h whole with
  | nothing e failed => cases failed
  | part now ts rs e failed => cases failed
  | stuck now ts rs message tr' done faulty => exact absurd faultless faulty
  | queued now picked selected loaded created shown fresh recorded own picks added shows answered =>
      obtain ⟨items, shown'⟩ := answered result rfl
      obtain ⟨own', countTasks, countRuns⟩ := Store.submission_ok shown'
      have batch := Picked.batch_eq fun q mem => recorded.run_queue (List.mem_append_right _ mem)
      have tasks : s'.tasks = s.tasks ++ picked.tasks := by rw [added]; rfl
      have runs : s'.runs = s.runs ++ picked.runs := by rw [added]; rfl
      have known : ∀ q ∈ picked.runs, q ∈ s'.runs := by
        rw [runs]
        exact fun q mem => List.mem_append_right _ mem
      have ownTasks : ∀ t ∈ picked.tasks, t.submission = picked.submission.id := by
        intro t mem
        obtain ⟨entry, -, one⟩ := picks.recordedTasks.exists_of_mem_right mem
        exact one.submission
      obtain ⟨tasksOf, countRuns'⟩ :=
        whole.new_work whole' tasks runs fresh (own ▸ whole.newSubmission_notMem) ownTasks
      rw [batch] at shows
      obtain ⟨shownRuns, waiting⟩ := whole'.shows_newItems known shows
      refine ⟨selected, loaded, picked.tasks, picked.runs, picks.selects, picks.declared,
        picks.needed, ?_⟩
      exact
        { submission := by
            refine ⟨s.newSubmission now (record r), ?_, ?_⟩
            · rw [added]
              rfl
            · rw [own', own]
          addedTasks := ⟨s.tasks, tasks, rfl⟩
          addedRuns := ⟨s.runs, runs, rfl⟩
          tasks := by rw [own']; exact picks.recordedTasks
          pullRequest := by
            intro t mem
            obtain ⟨entry, -, one⟩ := picks.recordedTasks.exists_of_mem_right mem
            exact one.pullRequest.trans ticket
          runs := picks.createdRuns
          items := by rw [items, shownRuns]
          waiting := by rw [items]; exact waiting
          queue := by
            refine ⟨s.queue, Store.newItems s.nextPosition
              (picked.runs.map fun q => ⟨q.id, q.settings.queue⟩), ?_, fun _ => id, ?_⟩
            · rw [added, batch]
              rfl
            · rw [items]
              exact shows.imp fun i x => Store.queueItem_eq_ok.mpr
          countTasks := by rw [countTasks, tasksOf, ← picks.recordedTasks.length_eq]; rfl
          countRuns := by rw [countRuns, countRuns', items, ← shownRuns, List.length_map] }

/-- What resolving does before makes no difference to what is created. -/
theorem Creates.resolved {s₁ s₂ : Store} {loaded : Dictionary TaskSettings} {ts : List Task}
    {rs : List Run} {result : Submitted} (h : Creates request r loaded ts rs result s₂ s')
    (before : Resolves request r s s₁ s₂) : Creates request r loaded ts rs result s s' := by
  obtain ⟨-, -, -, submissions, -⟩ := before.cancels.others
  obtain ⟨oldTasks, tasks, sameTasks⟩ := h.addedTasks
  obtain ⟨oldRuns, runs, sameRuns⟩ := h.addedRuns
  obtain ⟨old, new, queue, kept, shown⟩ := h.queue
  refine { h with
    submission := ?_
    addedTasks := ⟨oldTasks, tasks, ?_⟩
    addedRuns := ⟨oldRuns, runs, ?_⟩
    queue := ⟨old, new, queue, fun i mem => ?_, shown⟩ }
  · rw [← before.registered.submissions, ← submissions]
    exact h.submission
  · rw [sameTasks, before.cancels.tasks_map_id, before.registered.tasks]
  · rw [sameRuns, before.cancels.runs_map_id, before.registered.runs]
  · rw [← before.registered.queue]
    exact before.cancels.queue_subset i (kept i mem)

/-- **A successful submission creates** exactly what follows from what the code host said: with the
least set of directories that contains the selected ones and those that its members depend on, it
creates the work that the declarations of these directories declare, in the order of directories
and names. -/
theorem submit_creates {result : Submitted} (reachable : s.ReachableBy fun _ => True)
    (h : (submit limit request).Ends s tr (.ok result) s') (faultless : tr.Faultless) :
    ∃ r s₁ tr₁ tr₂ selected loaded ts rs,
      (Resolution.resolve request).Ends s tr₁ (.ok r) s₁ ∧ tr = tr₁ ++ tr₂ ∧
      Selects r tr₂ selected ∧
      (∀ d settings, Dictionary.get? loaded d = some settings ↔ Declares r tr₂ d settings) ∧
      (∀ d, d ∈ loaded.keys ↔ Needed (· ∈ selected) (DependsOn loaded) d) ∧
      (declaredRuns loaded).Pairwise DeclaredRun.Before ∧
      Creates request r loaded ts rs result s s' := by
  have whole := reachable.integrity
  rcases submit_ends h with
    ⟨cause, -, impossible⟩ | ⟨r, s₁, tr₁, tr₂, tr₃, resolved, started, rfl, silent⟩
  · cases impossible
  · simp only [Trace.faultless_append] at faultless
    obtain ⟨s₂, resolves⟩ := resolve_faultless resolved faultless.1 whole
    obtain ⟨selected, loaded, ts, rs, selects, declared, needed, creates⟩ := start_creates started
      faultless.2.1 (resolved.integrity whole) resolves.pullRequest
    refine ⟨r, s₁, tr₁, tr₂ ++ tr₃, selected, loaded, ts, rs, resolved, rfl, selects.append,
      fun d settings => ?_, needed, declaredRuns_ordered loaded, creates.resolved resolves⟩
    rw [declared, (declares_append fun dir reply => silent _ _ _).1]

/-- The directories that are needed are those of the **tasks that are added**. -/
theorem Creates.keys {loaded : Dictionary TaskSettings} {ts : List Task} {rs : List Run}
    {result : Submitted} (h : Creates request r loaded ts rs result s s') :
    ts.map (·.path) = loaded.keys := by
  refine List.forall₂_eq_eq_eq ▸ List.forall₂_map_left_iff.mpr (List.forall₂_map_right_iff.mpr ?_)
  exact h.tasks.flip.imp fun t entry one => one.path

end Intake

namespace Sample

/-- A session in which a commit changes a directory with a task of two runs, which depends on the
task of another directory. That of a third one is not needed. -/
def dependent : Session :=
  let twofold := "dependencies \"lib\"\nmountpoint \"/src\"\ndefault-image \"rust:1\"\n" ++
    "run \"test\" \x7b\n  command \"cargo\"\n\x7d\n" ++
    "run \"lint\" \x7b\n  command \"cargo\"\n\x7d\n"
  { session with host := { host with
      files := [("*", "*", "lib/task.kdl", Text.encodeUtf8 declaration),
        ("*", "*", "docs/task.kdl", Text.encodeUtf8 declaration),
        ("*", "*", "app/task.kdl", Text.encodeUtf8 twofold)]
      diffs := [("*", base, first, ["app/main.rs"])] } }

end Sample

namespace Intake

open Picking

/-- The submission of this commit creates the tasks of the two directories, and their runs in the
order of directories and names. -/
theorem submit_creates_sample : ∃ (r : Resolved) (tr : Trace) (selected : List String)
    (loaded : Dictionary TaskSettings) (ts : List Task) (rs : List Run) (result : Submitted)
    (s' : Store), loaded.keys = ["app", "lib"] ∧
      rs.map (·.name) = ["app:lint", "app:test", "lib:test"] ∧ Selects r tr selected ∧
      (∀ d, d ∈ loaded.keys ↔ Needed (· ∈ selected) (DependsOn loaded) d) ∧
      Creates (Sample.request Sample.first) r loaded ts rs result Sample.store s' := by
  obtain ⟨result, σ, submitted, facts⟩ := Session.exists_of_succeeds
    (submit 5 (Sample.request Sample.first)) Sample.dependent
    (fun _ σ => σ.store.tasks.map (·.path) = ["app", "lib"] &&
      σ.store.runs.map (·.name) = ["app:lint", "app:test", "lib:test"]) (by decide +kernel)
  obtain ⟨paths, names⟩ := Bool.and_eq_true_iff.mp facts
  obtain ⟨tr, ends, faultless⟩ := Session.perform_ends submitted
  obtain ⟨r, s₁, tr₁, tr₂, selected, loaded, ts, rs, -, -, selects, -, needed, -, creates⟩ :=
    submit_creates (Sample.reachable _) ends (faultless rfl).2
  -- There was no work before, so what is in the store now has been added.
  obtain ⟨old, tasks, noneBefore⟩ := creates.addedTasks
  obtain rfl := List.map_eq_nil_iff.mp noneBefore
  obtain ⟨old, runs, noneBefore⟩ := creates.addedRuns
  obtain rfl := List.map_eq_nil_iff.mp noneBefore
  rw [List.nil_append] at tasks runs
  refine ⟨r, tr₂, selected, loaded, ts, rs, result, σ.store, ?_, ?_, selects, needed, creates⟩
  · rw [← creates.keys, ← tasks]
    exact of_decide_eq_true paths
  · rw [← runs]
    exact of_decide_eq_true names

end Intake

end Dispatch
