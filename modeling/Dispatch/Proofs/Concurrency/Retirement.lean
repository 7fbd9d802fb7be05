import Dispatch.Proofs.Concurrency.Traffic

/-!
# Retired work and the queue

A run is retired when it gets a status or its task finishes, and with that it leaves the queue.
Putting a batch on the queue does not look at the statuses of its runs, though. So where requests
take turns, a run that is retired after it was created and before it is put on the queue gets there
all the same (`Traffic.retired_queued`), and stays for good, as its status cannot be recorded again.

That is the only way: as long as no task is canceled and no status recorded while its submission is
still starting it, the queue never holds retired work.

## Main definitions

* `Store.Live`: each item on the queue is of a run without a status, of an unfinished task.
* `Store.spares`: a call that does not retire work of certain tasks.
* `Traffic.sparesStarting`: a call that spares the tasks that are being started.
* `Traffic.Sound`: what holds at any time while tasks that are being started are spared.

## Main results

* `StoreCall.run_spares`: work that is spared stays open.
* `Store.Live.run`: the queue stays free of retired work if only open runs are put on it.
* `Traffic.Sound.step`: one step of one request keeps what holds.
* `Traffic.ReachableBy.queue_live`: the queue never holds retired work.
-/

namespace Dispatch

namespace Store

/-! ### Open work -/

/-- A task that **has not finished**. -/
def TaskOpen (s : Store) (task : Id) : Prop := ∃ t ∈ s.tasks, t.id = task ∧ t.isFinished = false

/-- A run of a task that **has no status**. -/
def RunOpen (s : Store) (run task : Id) : Prop :=
  ∃ r ∈ s.runs, r.id = run ∧ r.task = task ∧ r.status = none

/-- **No retired work** is on the queue. -/
def Live (s : Store) : Prop := ∀ i ∈ s.queue, ∃ task, s.RunOpen i.run task ∧ s.TaskOpen task

/-- A call **spares** certain tasks: it does not cancel one of them, and it records no status for a
run of one of them. -/
def spares (s : Store) (kept : Id → Bool) : StoreCall → Bool
  | .cancelTask task => !kept task
  | .finishRun run _ => s.runs.all fun r => r.id ≠ run || !kept r.task
  | _ => true

/-- Open work of certain tasks is open in **another store** as well. -/
structure KeepsOpen (s s' : Store) (kept : Id → Bool) : Prop where
  task : ∀ t, kept t = true → s.TaskOpen t → s'.TaskOpen t
  run : ∀ r t, kept t = true → s.RunOpen r t → s'.RunOpen r t

namespace KeepsOpen

variable {s s' : Store} {kept : Id → Bool}

/-- Records that are added leave open work open. -/
theorem of_append (tasks : List Task) (runs : List Run) (knownTasks : s'.tasks = s.tasks ++ tasks)
    (knownRuns : s'.runs = s.runs ++ runs) : s.KeepsOpen s' kept where
  task := by
    rintro _ - ⟨t, known, rfl, unfinished⟩
    exact ⟨t, by rw [knownTasks]; exact List.mem_append_left _ known, rfl, unfinished⟩
  run := by
    rintro _ _ - ⟨r, known, rfl, rfl, unended⟩
    exact ⟨r, by rw [knownRuns]; exact List.mem_append_left _ known, rfl, rfl, unended⟩

/-- Calls about other records leave open work open. -/
theorem of_eq (knownTasks : s'.tasks = s.tasks) (knownRuns : s'.runs = s.runs) :
    s.KeepsOpen s' kept :=
  of_append [] [] (by rw [knownTasks, List.append_nil]) (by rw [knownRuns, List.append_nil])

/-- A revision leaves work open whose task and runs it leaves open. -/
theorem revise {task : Task → Task} {run : Run → Run} {keep : StoredItem → Bool}
    {item : StoredItem → StoredItem} (f : Revises task run item)
    (tasks : ∀ t, kept t.id = true → (task t).isFinished = t.isFinished)
    (runs : ∀ r ∈ s.runs, kept r.task = true → (run r).status = r.status) :
    s.KeepsOpen (s.revise task run keep item) kept where
  task := by
    rintro _ spared ⟨t, known, rfl, unfinished⟩
    exact ⟨task t, List.mem_map_of_mem known, (f.task t).id, (tasks t spared).trans unfinished⟩
  run := by
    rintro _ _ spared ⟨r, known, rfl, rfl, unended⟩
    exact ⟨run r, List.mem_map_of_mem known, (f.run r).id, (f.run r).task,
      (runs r known spared).trans unended⟩

/-- Claims leave open work open. -/
theorem claiming (now : Timestamp) (worker : String) (i : StoredItem) (r : Run) :
    s.KeepsOpen (s.claiming now worker i r) kept := by
  rw [claiming_eq]
  refine revise (revises_claiming now worker r.task r.id i.position) (fun t _ => ?_)
    fun q _ _ => ?_
  · split <;> rfl
  · split <;> rfl

/-- Canceling a task leaves the work of all others open. -/
theorem canceling {now : Timestamp} {task : Id} (other : ¬ kept task = true) :
    s.KeepsOpen (s.canceling now task) kept := by
  rw [canceling_eq]
  refine revise (revises_canceling now task) (fun t spared => ?_) fun r _ spared => ?_
  · have apart : t.id ≠ task := fun same => other (same ▸ spared)
    rw [if_neg apart]
  · have apart : isOpenRunOf task r ≠ true := by
      intro isOpen
      rw [isOpenRunOf, Bool.and_eq_true, decide_eq_true_eq] at isOpen
      exact other (isOpen.1 ▸ spared)
    rw [if_neg apart]

/-- A run that ends, and its task with it, leave the work of other tasks open. -/
theorem ending (h : s.Integrity) {r : Run} (known : r ∈ s.runs) (other : ¬ kept r.task = true)
    {now : Timestamp} {status : Bool} {change : Task → Task}
    (revises : Revises change (fun q => if q.id = r.id then endRun now status q else q) id)
    (tasks : ∀ t, kept t.id = true → (change t).isFinished = t.isFinished) :
    s.KeepsOpen (s.revise change (fun q => if q.id = r.id then endRun now status q else q)
      (fun i => !([r.id].contains i.run)) id) kept := by
  refine revise revises tasks fun q mem spared => ?_
  have apart : q.id ≠ r.id := by
    intro same
    obtain rfl : q = r := h.eq_of_run_id mem known same
    exact other spared
  rw [if_neg apart]

end KeepsOpen

end Store

/-- Open work that a call **spares** stays open. -/
theorem StoreCall.run_spares {s : Store} (h : s.Integrity) {kept : Id → Bool} {call : StoreCall}
    (spares : s.spares kept call = true) (now : Timestamp) :
    s.KeepsOpen (call.run now s).2 kept := by
  have all {reply : Except StoreError call.Reply} {s' : Store} (run : call.run now s = (reply, s'))
      (keeps : s.KeepsOpen s' kept) :
      s.KeepsOpen (call.run now s).2 kept := by
    rw [run]
    exact keeps
  by_cases aside : call.LeavesWork
  · obtain ⟨tasks, runs, -, -⟩ := aside.run_eq now s
    exact all rfl (.of_eq tasks runs)
  cases call with
  | createTask new =>
      rcases Store.createTask_cases now new s with ⟨-, e, run⟩ | ⟨-, run⟩
      exacts [all run (.of_eq rfl rfl), all run (.of_append _ [] rfl (List.append_nil _).symm)]
  | createRun new =>
      rcases Store.createRun_cases now new s with ⟨-, e, run⟩ | ⟨-, run⟩
      exacts [all run (.of_eq rfl rfl), all run (.of_append [] _ (List.append_nil _).symm rfl)]
  | enqueue batch =>
      rcases Store.enqueue_cases batch s with ⟨-, e, run⟩ | ⟨-, shown, run, -⟩
      exacts [all run (.of_eq rfl rfl), all run (.of_eq rfl rfl)]
  | dequeue queue worker =>
      rcases Store.dequeue_cases now queue worker s with
        ⟨-, _, run⟩ | ⟨i, -, ⟨-, e, run⟩ | ⟨r, -, run⟩⟩
      exacts [all run (.of_eq rfl rfl), all run (.of_eq rfl rfl),
        all run (.claiming now worker i r)]
  | cancelTask task =>
      have other : ¬ kept task = true := by simpa [Store.spares] using spares
      rcases Store.cancelTask_cases now task s with
        ⟨-, _, run⟩ | ⟨_, -, -, _, run⟩ | ⟨t, -, -, run⟩
      exacts [all run (.of_eq rfl rfl), all run (.of_eq rfl rfl), all run (.canceling other)]
  | finishRun id status =>
      rcases Store.finishRun_cases now id status s with
        ⟨-, e, run⟩ | ⟨r, found, -, ended⟩
      · exact all run (.of_eq rfl rfl)
      · obtain ⟨known, rfl⟩ := h.run?_eq_some.mp found
        have other : ¬ kept r.task = true := by
          have each := List.all_eq_true.mp spares r known
          simpa using each
        have ends := Store.KeepsOpen.ending h known other
          (Store.revises_ending now r.id status) fun _ _ => rfl
        rw [← Store.ending_eq] at ends
        rcases ended with ⟨-, e, run⟩ | ⟨t, -, -, run⟩ | ⟨t, result, -, -, -, run⟩
        · exact all run ends
        · exact all run ends
        · refine all run ?_
          rw [Store.ending_changeTask_eq]
          refine Store.KeepsOpen.ending h known other
            (Store.revises_ending_endTask now r.id status r.task result) fun t spared => ?_
          have apart : t.id ≠ r.task := fun same => other (same ▸ spared)
          rw [if_neg apart]
  | _ => exact absurd trivial aside

namespace Store

/-! ### The queue -/

/-- Where a task's status sums up those of its runs, each of them has one. -/
theorem rolledUp?_closed {runs : List Run} {result : Bool} (sums : rolledUp? runs = some result) :
    ∀ r ∈ runs, r.status.isSome = true := by
  rw [rolledUp?] at sums
  split at sums
  · rename_i all
    exact List.all_eq_true.mp all
  · cases sums

namespace Live

variable {s s' : Store}

/-- If every run on the queue is open afterwards, the queue is free of retired work. -/
theorem revise (h : s.Live) {task : Task → Task} {run : Run → Run} {keep : StoredItem → Bool}
    {item : StoredItem → StoredItem} (f : Revises task run item)
    (runs : ∀ i ∈ s.queue, keep i = true → ∀ r ∈ s.runs, r.id = i.run →
      (run r).status = r.status)
    (tasks : ∀ i ∈ s.queue, keep i = true → ∀ r ∈ s.runs, r.id = i.run → r.status = none →
      ∀ t ∈ s.tasks, t.id = r.task → (task t).isFinished = t.isFinished) :
    (s.revise task run keep item).Live := by
  intro j changed
  obtain ⟨i, mem, rfl⟩ := List.mem_map.mp changed
  obtain ⟨mem, kept⟩ := List.mem_filter.mp mem
  obtain ⟨_, ⟨r, known, same, rfl, unended⟩, t, knownTask, own, unfinished⟩ := h i mem
  refine ⟨r.task, ⟨run r, List.mem_map_of_mem known, ?_, (f.run r).task, ?_⟩, task t,
    List.mem_map_of_mem knownTask, (f.task t).id.trans own, ?_⟩
  · rw [(f.run r).id, (f.item i).run]
    exact same
  · rw [runs i mem kept r known same]
    exact unended
  · rw [tasks i mem kept r known same unended t knownTask own]
    exact unfinished

/-- A **step** leaves no retired work on the queue. -/
theorem step (h : s.Live) (st : s.Step s') : s'.Live := by
  cases st with
  | stay | addUser | addRepository | addRef | addSubmission => exact h
  | claim now worker i r =>
      rw [claiming_eq]
      refine h.revise (revises_claiming now worker r.task r.id i.position) ?_ ?_
      · intro j _ _ q _ _
        split <;> rfl
      · intro j _ _ q _ _ _ t _ _
        split <;> rfl
  | endRun now status r =>
      rw [ending_eq]
      refine h.revise (revises_ending now r.id status) ?_ fun _ _ _ _ _ _ _ _ _ _ => rfl
      intro i _ kept q _ same
      have apart : q.id ≠ r.id := by
        rw [same]
        simpa using kept
      rw [if_neg apart]
  | endTask now status result r t known unended knownTask own unfinished sums =>
      rw [ending_changeTask_eq]
      refine h.revise (revises_ending_endTask now r.id status t.id result) ?_ ?_
      · intro i _ kept q _ same
        have apart : q.id ≠ r.id := by
          rw [same]
          simpa using kept
        rw [if_neg apart]
      · intro i mem kept q knownRun same openRun u _ ofRun
        have apart : q.id ≠ r.id := by
          rw [same]
          simpa using kept
        have other : u.id ≠ t.id := by
          intro sameTask
          -- All runs of the task that ends have a status, and this run has none.
          have member : q ∈ (s.ending now r.id status).runsOf t.id := by
            refine mem_runsOf.mpr ⟨?_, ofRun.symm.trans sameTask⟩
            exact List.mem_map.mpr ⟨q, knownRun, if_neg apart⟩
          have ended := rolledUp?_closed sums q member
          rw [openRun] at ended
          cases ended
        rw [if_neg other]
  | cancel now t known unfinished =>
      rw [canceling_eq]
      have apart : ∀ i ∈ s.queue, !(((s.runs.filter (isOpenRunOf t.id)).map
          (endRun now false)).map (·.id)).contains i.run → ∀ r ∈ s.runs, r.id = i.run →
          isOpenRunOf t.id r ≠ true := by
        intro i _ kept r known same isOpen
        rw [Bool.not_eq_true', ← Bool.not_eq_true, List.contains_iff_mem] at kept
        refine kept (List.mem_map.mpr ⟨endRun now false r, ?_, same⟩)
        exact List.mem_map_of_mem (List.mem_filter.mpr ⟨known, isOpen⟩)
      refine h.revise (revises_canceling now t.id) ?_ ?_
      · intro i mem kept r known same
        rw [if_neg (apart i mem kept r known same)]
      · intro i mem kept r known same unended u _ own
        have other : u.id ≠ t.id := by
          intro sameTask
          refine apart i mem kept r known same ?_
          simp [isOpenRunOf, ← own, sameTask, unended]
        rw [if_neg other]

/-- **Any call** leaves no retired work on the queue, if it puts only open runs of unfinished tasks
there. -/
theorem run (h : s.Live) (whole : s.Integrity) (call : StoreCall) (now : Timestamp)
    (opens : ∀ batch, call = .enqueue batch → ∀ x ∈ batch, ∃ task,
      s.RunOpen x.run task ∧ s.TaskOpen task) : (call.run now s).2.Live := by
  by_cases quiet : call.AddsNoWork
  · exact h.step (call.run_step whole quiet now)
  · have added {s' : Store} (keeps : s.KeepsOpen s' fun _ => true) (queue : s'.queue = s.queue) :
        s'.Live := by
      intro i mem
      rw [queue] at mem
      obtain ⟨task, run, own⟩ := h i mem
      exact ⟨task, keeps.run _ _ rfl run, keeps.task _ rfl own⟩
    have spares : s.spares (fun _ => true) call = true := by
      cases call <;> first | rfl | exact absurd trivial quiet
    have keeps := call.run_spares whole spares now
    cases call with
    | createTask new =>
        rcases createTask_cases now new s with ⟨-, e, run⟩ | ⟨-, run⟩
        · rw [StoreCall.run, run] at keeps ⊢
          exact h
        · rw [StoreCall.run, run] at keeps ⊢
          exact added keeps rfl
    | createRun new =>
        rcases createRun_cases now new s with ⟨-, e, run⟩ | ⟨-, run⟩
        · rw [StoreCall.run, run] at keeps ⊢
          exact h
        · rw [StoreCall.run, run] at keeps ⊢
          exact added keeps rfl
    | enqueue batch =>
        rcases enqueue_cases batch s with ⟨-, e, run⟩ | ⟨-, shown, run, -⟩
        · rw [StoreCall.run, run]
          exact h
        · rw [StoreCall.run, run]
          intro i mem
          rcases List.mem_append.mp mem with old | new
          · exact h i old
          · obtain ⟨x, known, eq, -, -⟩ := mem_newItems new
            rw [eq]
            exact opens batch rfl x known
    | _ => exact absurd trivial quiet

end Live

theorem Seeded.live {s : Store} (h : s.Seeded) : s.Live := by
  induction h with
  | empty =>
      intro i absent
      cases absent
  | user now username token seeded ih =>
      exact ih.step (StoreCall.run_step seeded.holds.1 (.createUser username token) trivial now)
  | repository now new seeded ih =>
      exact ih.step (StoreCall.run_step seeded.holds.1 (.createRepository new) trivial now)

end Store

/-! ### Work that is being started -/

/-- What is under way **is open**. -/
structure Underway.OpenIn (w : Underway) (s : Store) : Prop where
  task : ∀ id ∈ w.tasks, s.TaskOpen id
  run : ∀ id ∈ w.runs, ∃ task ∈ w.tasks, s.RunOpen id task

namespace Underway.OpenIn

variable {w : Underway} {s s' : Store} {kept : Id → Bool}

theorem none (s : Store) : Underway.none.OpenIn s :=
  ⟨by simp [Underway.none], by simp [Underway.none]⟩

/-- What is under way stays open if it is spared. -/
theorem keep (h : w.OpenIn s) (keeps : s.KeepsOpen s' kept)
    (spared : ∀ id ∈ w.tasks, kept id = true) : w.OpenIn s' where
  task id mem := keeps.task id (spared id mem) (h.task id mem)
  run id mem := by
    obtain ⟨task, own, isOpen⟩ := h.run id mem
    exact ⟨task, own, keeps.run id task (spared task own) isOpen⟩

/-- What is under way **after a call** is open, if the call spares what was under way before. -/
theorem next (h : w.OpenIn s) (whole : s.Integrity) {call : StoreCall} (covers : w.Covers call)
    (spares : s.spares kept call = true) (spared : ∀ id ∈ w.tasks, kept id = true)
    (now : Timestamp) : (w.next call (call.run now s).1).OpenIn (call.run now s).2 := by
  have before : w.OpenIn (call.run now s).2 := h.keep (call.run_spares whole spares now) spared
  cases call with
  | createTask new =>
      rcases Store.createTask_cases now new s with ⟨-, e, run⟩ | ⟨-, run⟩
      · rw [StoreCall.run, run] at before ⊢
        exact before
      · rw [StoreCall.run, run] at before ⊢
        refine ⟨List.forall_mem_cons.mpr ⟨?_, before.task⟩, fun id mem => ?_⟩
        · exact ⟨s.newTask now new, List.mem_append_right _ (List.mem_singleton_self _), rfl, rfl⟩
        · obtain ⟨task, own, isOpen⟩ := before.run id mem
          exact ⟨task, List.mem_cons_of_mem _ own, isOpen⟩
  | createRun new =>
      rcases Store.createRun_cases now new s with ⟨-, e, run⟩ | ⟨-, run⟩
      · rw [StoreCall.run, run] at before ⊢
        exact before
      · rw [StoreCall.run, run] at before ⊢
        refine ⟨before.task, List.forall_mem_cons.mpr ⟨⟨new.task, covers, ?_⟩, before.run⟩⟩
        exact ⟨s.newRun now new, List.mem_append_right _ (List.mem_singleton_self _), rfl, rfl, rfl⟩
  | enqueue batch => exact .none _
  | _ => exact before

end Underway.OpenIn

/-- A course is **sound** in a store: it starts only its own work, and what it is starting is
open. -/
structure Course.SoundIn (c : Course) (s : Store) : Prop where
  own : c.rest.StartsOwn (fun _ _ => True) c.underway
  isOpen : c.starting.OpenIn s

namespace Course

variable {c c' : Course} {s s' : Store} {kept : Id → Bool}

theorem begin_soundIn (d : Demand) (s : Store) : (begin d).SoundIn s where
  own := Program.StartsOwn.bind (d.startsOwn .none) fun _ _ _ => trivial
  isOpen := by
    rw [starting]
    split <;> exact .none s

/-- A course is sound where what it has under way is open. -/
theorem SoundIn.of_underway (own : c.rest.StartsOwn (fun _ _ => True) c.underway)
    (isOpen : c.underway.OpenIn s) : c.SoundIn s where
  own := own
  isOpen := by
    rw [starting]
    split
    exacts [.none s, isOpen]

/-- A **step of a request** leaves its course sound and no retired work on the queue, if it spares
what the request is starting. -/
theorem SoundIn.step (h : c.SoundIn s) (whole : s.Integrity) (live : s.Live)
    (spared : ∀ id ∈ c.starting.tasks, kept id = true)
    (taken : c.Step (s.spares kept) s s' c') :
    c'.SoundIn s' ∧ s'.Integrity ∧ s'.Live ∧ s.KeepsOpen s' kept := by
  cases taken with
  | @store w call next now permit =>
      have isOpen : w.OpenIn s := h.isOpen
      obtain ⟨covers, later⟩ := h.own
      have opens : ∀ batch, call = .enqueue batch → ∀ x ∈ batch, ∃ task,
          s.RunOpen x.run task ∧ s.TaskOpen task := by
        rintro batch rfl x mem
        obtain ⟨task, own, run⟩ := isOpen.run x.run (covers x mem)
        exact ⟨task, run, isOpen.task task own⟩
      refine ⟨.of_underway (later _) (isOpen.next whole covers permit spared now), ?_, ?_, ?_⟩
      · exact call.run_integrity whole now
      · exact live.run whole call now opens
      · exact call.run_spares whole permit now
  | host reply => exact ⟨.of_underway (h.own reply) h.isOpen, whole, live, .of_eq rfl rfl⟩
  | notify => exact ⟨.of_underway h.own h.isOpen, whole, live, .of_eq rfl rfl⟩

end Course

namespace Traffic

/-- Some request is **starting** a task: it has created it, and not tried to put its runs on the
queue yet. -/
def starts (t : Traffic) (task : Id) : Bool := t.courses.any fun c => c.starting.tasks.contains task

/-- A call **spares the tasks that are being started**: it neither cancels one of them nor records
a status for a run of one of them. -/
def sparesStarting (t : Traffic) (call : StoreCall) : Bool := t.store.spares t.starts call

/-- What holds **at any time** while tasks that are being started are spared. -/
structure Sound (t : Traffic) : Prop where
  whole : t.store.Integrity
  live : t.store.Live
  course : ∀ c ∈ t.courses, c.SoundIn t.store

/-- Whatever **happens next**, as long as tasks that are being started are spared. -/
theorem Sound.move {t t' : Traffic} (h : t.Sound) (m : Move sparesStarting t t') : t'.Sound := by
  cases m with
  | arrive d s courses =>
      refine ⟨h.whole, h.live, fun c mem => ?_⟩
      rcases List.mem_append.mp mem with old | new
      · exact h.course c old
      · rw [List.mem_singleton.mp new]
        exact Course.begin_soundIn d s
  | @step s s' c c' before after taken =>
      have spared : ∀ c₁ ∈ before ++ c :: after, ∀ id ∈ c₁.starting.tasks,
          starts ⟨s, before ++ c :: after⟩ id = true := by
        intro c₁ mem id own
        exact List.any_eq_true.mpr ⟨c₁, mem, List.contains_iff_mem.mpr own⟩
      have here : c ∈ before ++ c :: after := List.mem_append_right _ List.mem_cons_self
      obtain ⟨sound, whole, live, keeps⟩ :=
        (h.course c here).step h.whole h.live (spared c here) taken
      have others : ∀ c₁ ∈ before ++ c :: after, c₁.SoundIn s' := by
        intro c₁ mem
        have old := h.course c₁ mem
        exact ⟨old.own, old.isOpen.keep keeps (spared c₁ mem)⟩
      refine ⟨whole, live, fun c₁ mem => ?_⟩
      rcases List.mem_append.mp mem with earlier | rest
      · exact others c₁ (List.mem_append_left _ earlier)
      · rcases List.mem_cons.mp rest with rfl | later
        · exact sound
        · exact others c₁ (List.mem_append_right _ (List.mem_cons_of_mem _ later))
  | leave w s before after =>
      refine ⟨h.whole, h.live, fun c mem => h.course c ?_⟩
      rcases List.mem_append.mp mem with earlier | later
      · exact List.mem_append_left _ earlier
      · exact List.mem_append_right _ (List.mem_cons_of_mem _ later)

theorem ReachableBy.sound {t : Traffic} (h : ReachableBy sparesStarting t) : t.Sound := by
  induction h with
  | opened seeded =>
      exact ⟨seeded.holds.1, seeded.live, by simp⟩
  | move _ m ih => exact ih.move m

/-- **The queue never holds retired work**: in whatever order requests take turns, as long as tasks
that are being started are spared, each item is of a run without a status, of an unfinished task. -/
theorem ReachableBy.queue_live {t : Traffic} (h : ReachableBy sparesStarting t) :
    ∀ i ∈ t.store.queue, ∃ r task, t.store.run? i.run = some r ∧ r.status = none ∧
      t.store.task? r.task = some task ∧ task.isFinished = false := by
  intro i mem
  have sound := h.sound
  obtain ⟨_, ⟨r, known, same, rfl, unended⟩, task, knownTask, own, unfinished⟩ := sound.live i mem
  exact ⟨r, task, sound.whole.run?_eq_some.mpr ⟨known, same⟩, unended,
    sound.whole.task?_eq_some.mpr ⟨knownTask, own⟩, unfinished⟩

/-- Two submissions for one branch take turns: the first is on the queue by the time the second one
cancels its task. -/
def takingTurns : List Turn :=
  [.arrive (.submit 5 (Sample.request Sample.first)),
    .arrive (.submit 5 (Sample.request Sample.second))] ++
    List.replicate 4 (.step 1) ++ List.replicate 21 (.step 0) ++ List.replicate 18 (.step 1)

theorem queue_live_sample : ∃ t : Traffic, t.ReachableBy sparesStarting ∧
    t.store.queue.map (·.run) = [.issued .run 2] ∧
    t.store.runs.map (·.status) = [some false, none] ∧
    ∀ i ∈ t.store.queue, ∃ r task, t.store.run? i.run = some r ∧ r.status = none ∧
      t.store.task? r.task = some task ∧ task.isFinished = false := by
  have played : (play sparesStarting Sample.host (.startOfYear 1) takingTurns
      ⟨Sample.store, []⟩).any (fun t => t.store.queue.map (·.run) = [.issued .run 2] &&
        t.store.runs.map (·.status) = [some false, none]) = true := by decide +kernel
  obtain ⟨t, led, holds⟩ := (Option.any_eq_true _ _).mp played
  simp only [Bool.and_eq_true, decide_eq_true_eq] at holds
  have reached := play_reachable (.opened (.repository _ _ (.user _ _ _ .empty))) led
  exact ⟨t, reached, holds.1, holds.2, reached.queue_live⟩

/-- A task is canceled between the creation of its run and the batch that puts the run on the
queue. -/
def interrupted : List Turn :=
  .arrive (.submit 5 (Sample.request Sample.first)) :: List.replicate 20 (.step 0) ++
    [.arrive (.cancelTask (.issued .task 1)), .step 1, .step 0]

/-- Without that, **retired work gets on the queue**: a run with a status, of a canceled task, whose
status cannot be recorded to take it from there. -/
theorem retired_queued : ∃ t : Traffic, t.ReachableBy (fun _ _ => true) ∧
    ∃ i ∈ t.store.queue, ∃ r task, t.store.run? i.run = some r ∧ r.status = some false ∧
      t.store.task? r.task = some task ∧ task.canceled = true ∧ task.isFinished = true ∧
      ∀ now status, ∃ reason,
        Store.finishRun now r.id status t.store = (.error (.conflict reason), t.store) := by
  have played : (play (fun _ _ => true) Sample.host (.startOfYear 1) interrupted
      ⟨Sample.store, []⟩).any (fun t => t.store.queue.any fun i =>
        (t.store.run? i.run).any fun r => r.status = some false &&
          (t.store.task? r.task).any fun task => task.canceled && task.isFinished) = true := by
    decide +kernel
  obtain ⟨t, led, holds⟩ := (Option.any_eq_true _ _).mp played
  obtain ⟨i, queued, holds⟩ := List.any_eq_true.mp holds
  obtain ⟨r, run, holds⟩ := (Option.any_eq_true _ _).mp holds
  obtain ⟨ended, holds⟩ := Bool.and_eq_true_iff.mp holds
  obtain ⟨task, own, holds⟩ := (Option.any_eq_true _ _).mp holds
  obtain ⟨canceled, finished⟩ := Bool.and_eq_true_iff.mp holds
  have ended : r.status = some false := of_decide_eq_true ended
  have same : r.id = i.run := by simpa using List.find?_some run
  have reached := play_reachable (.opened (.repository _ _ (.user _ _ _ .empty))) led
  refine ⟨t, reached, i, queued, r, task, run, ended, own, canceled, finished, ?_⟩
  intro now status
  refine Store.finishRun_ended ?_ (by rw [ended]; rfl) now status
  rw [same]
  exact run

end Traffic

end Dispatch
