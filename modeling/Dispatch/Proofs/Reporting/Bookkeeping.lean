import Dispatch.Proofs.Reporting.Ledger
import Dispatch.Proofs.Submission.Supersession

/-!
# Keeping the ledger

Whatever the dispatcher does, and whatever fails while it does it, it leaves the ledger up to date.
A run is announced as pending to the address that its submission has been resolved to; all later
notifications go to the address that the store then finds for its task. The two agree because the
task has been recorded for the parent, and its submission for the head.

## Main definitions

* `Operation.Books`: an operation leaves the ledger up to date, and its value meets a condition.
* `Operation.Keeps`: an operation leaves the ledger up to date wherever it begins.
* `Onward`: runs that have been announced have not gone on.
* `Resolved.Grounded`: what the address of a submission rests on is in the store.

## Main results

* `Operation.books_bind`, `Operation.books_quiet`, `Operation.books_mapM`: how books are kept over
  a sequence, by what leaves all runs alone, and over a list.
* `Worker.setStatus_keeps`, `Worker.next_keeps`, `Cancellation.task_keeps`: workers and
  cancellation keep the ledger.
* `Picking.pick_books`: what has been picked has been announced.
* `Order.keeps`: so does every order.
-/

namespace Dispatch

/-! ### Calls that leave the runs alone -/

/-- A call that leaves **runs and queue** alone. -/
def StoreCall.LeavesRuns : StoreCall → Prop
  | createTask _ => True
  | call => call.LeavesWork

namespace StoreCall

variable {call : StoreCall}

theorem LeavesRuns.endsNoRun (h : call.LeavesRuns) : call.EndsNoRun := by
  cases call <;> trivial

theorem IsLookup.leavesRuns (h : call.IsLookup) : call.LeavesRuns := by
  cases call <;> trivial

theorem Registers.leavesRuns (h : call.Registers) : call.LeavesRuns := by
  cases call <;> trivial

theorem LeavesRuns.run_eq (h : call.LeavesRuns) (now : Timestamp) (s : Store) :
    (call.run now s).2.runs = s.runs ∧ (call.run now s).2.queue = s.queue := by
  have left (work : call.LeavesWork) :
      (call.run now s).2.runs = s.runs ∧ (call.run now s).2.queue = s.queue := by
    obtain ⟨-, runs, queue, -⟩ := work.run_eq now s
    exact ⟨runs, queue⟩
  cases call with
  | createTask new =>
      rcases Store.createTask_cases now new s with ⟨-, e, run⟩ | ⟨-, run⟩
      · rw [StoreCall.run, run]
        exact ⟨rfl, rfl⟩
      · rw [StoreCall.run, run]
        exact ⟨rfl, rfl⟩
  | _ => exact left h

end StoreCall

/-- Between two moments, runs that had been announced **have not gone on**. -/
structure Onward (past : Trace) (s : Store) (past' : Trace) (s' : Store) : Prop where
  announced : ∀ r : Run, r.Announced past s → r.Announced past' s'
  later : s.Later s'

theorem Calm.onward {past past' : Trace} {s s' : Store} (h : Calm past s past' s') :
    Onward past s past' s' where
  announced _ announced := announced.calm h
  later := h.later

theorem Onward.trans {past past' past'' : Trace} {s s' s'' : Store} (h : Onward past s past' s')
    (h' : Onward past' s' past'' s'') : Onward past s past'' s'' where
  announced r announced := h'.announced r (h.announced r announced)
  later := h.later.trans h'.later

/-! ### Operations that keep the ledger -/

namespace Operation

variable {α β : Type} {past : Trace} {s : Store} {post : α → Trace → Store → Prop}
  {Q : HostCall → Prop}

/-- An operation that begins when some things have happened **leaves the ledger up to date**, and
if it ends with a value, a condition holds of it then. -/
def Books (post : α → Trace → Store → Prop) (op : Operation α) (past : Trace) (s : Store) : Prop :=
  ∀ tr res s', op.Ends s tr res s' →
    s'.Ledger (past ++ tr) ∧ ∀ a, res = .ok a → post a (past ++ tr) s'

/-- An operation that leaves the ledger up to date **wherever it begins**. -/
def Keeps (op : Operation α) : Prop :=
  ∀ past s, s.Ledger past → op.Books (fun _ _ _ => True) past s

theorem Books.mono {post' : α → Trace → Store → Prop} {op : Operation α}
    (h : op.Books post past s) (imp : ∀ a past' s', post a past' s' → post' a past' s') :
    op.Books post' past s := by
  intro tr res s' ends
  obtain ⟨ledger, meets⟩ := h tr res s' ends
  exact ⟨ledger, fun a eq => imp a _ s' (meets a eq)⟩

theorem Books.anyway {op : Operation α} (h : op.Books post past s) :
    op.Books (fun _ _ _ => True) past s :=
  h.mono fun _ _ _ _ => trivial

/-- The store is a later one afterwards. -/
theorem Books.later {op : Operation α} (h : op.Books post past s) (whole : s.Integrity) :
    op.Books (fun a past' s' => post a past' s' ∧ s.Later s') past s := by
  intro tr res s' ends
  obtain ⟨ledger, meets⟩ := h tr res s' ends
  exact ⟨ledger, fun a eq => ⟨meets a eq, ends.later whole⟩⟩

theorem books_pure {a : α} (h : s.Ledger past) (meets : post a past s) :
    (pure a : Operation α).Books post past s := by
  intro tr res s' ends
  obtain ⟨rfl, rfl, rfl⟩ := ends_pure.mp ends
  rw [List.append_nil]
  refine ⟨h, ?_⟩
  rintro _ ⟨⟩
  exact meets

theorem books_fail {e : OperationError} (h : s.Ledger past) :
    (fail e : Operation α).Books post past s := by
  intro tr res s' ends
  obtain ⟨rfl, rfl, rfl⟩ := ends_fail.mp ends
  rw [List.append_nil]
  exact ⟨h, by simp⟩

/-- **Sequences.** The second part goes on where the first one has ended. -/
theorem books_bind {op : Operation α} {f : α → Operation β} {post' : β → Trace → Store → Prop}
    (first : op.Books post past s)
    (second : ∀ a past' s', s'.Ledger past' → post a past' s' → (f a).Books post' past' s') :
    (op >>= f).Books post' past s := by
  intro tr res s' ends
  rcases ends_bind.mp ends with ⟨e, failed, rfl⟩ | ⟨a, s₁, tr₁, tr₂, begun, rest, rfl⟩
  · exact ⟨(first tr _ s' failed).1, by simp⟩
  · obtain ⟨ledger, meets⟩ := first tr₁ _ s₁ begun
    rw [← List.append_assoc]
    exact second a _ s₁ ledger (meets a rfl) tr₂ res s' rest

theorem books_stage {name : String} {op : Operation α} (h : op.Books post past s) :
    (stage name op).Books post past s := by
  intro tr res s' ends
  rcases ends_stage.mp ends with ⟨a, ended, rfl⟩ | ⟨e, ended, rfl⟩
  · exact h tr _ s' ended
  · exact ⟨(h tr _ s' ended).1, by simp⟩

theorem books_attempt {op : Operation α} (h : op.Books post past s) :
    (attempt op).Books (fun outcome past' s' => ∀ a, outcome = .ok a → post a past' s') past s := by
  intro tr res s' ends
  cases res with
  | error e => exact absurd ends not_ends_attempt_error
  | ok outcome =>
      obtain ⟨ledger, meets⟩ := h tr outcome s' (ends_attempt_ok.mp ends)
      refine ⟨ledger, ?_⟩
      rintro _ ⟨⟩
      exact meets

/-- **A notification** that is entered. -/
theorem books_notify {n : Notification} (h : s.Ledger (past ++ [Event.notice n])) :
    (notify n).Books (fun _ past' s' => past' = past ++ [Event.notice n] ∧ s' = s) past s := by
  intro tr res s' ends
  obtain ⟨rfl, rfl, rfl⟩ := ends_notify.mp ends
  exact ⟨h, fun _ _ => ⟨rfl, rfl⟩⟩

/-- **A call to the store.** If it fails, nothing has happened. -/
theorem books_tryStore {call : StoreCall} {post : call.Reply → Trace → Store → Prop}
    (h : s.Ledger past)
    (answered : ∀ now reply s', call.run now s = (.ok reply, s') →
      s'.Ledger (past ++ [.store call (.ok reply)]) ∧
        post reply (past ++ [.store call (.ok reply)]) s') :
    (tryStore call).Books (fun reply past' s' => ∀ a, reply = .ok a → post a past' s') past s := by
  intro tr res s' ends
  rcases ends_tryStore.mp ends with ⟨now, reply, effect, rfl, rfl⟩ | ⟨e, rfl, rfl, rfl⟩
  · cases reply with
    | ok reply =>
        obtain ⟨ledger, meets⟩ := answered now reply s' effect
        refine ⟨ledger, ?_⟩
        rintro _ ⟨⟩ _ ⟨⟩
        exact meets
    | error e =>
        have unchanged := call.run_atomic h.whole now (congrArg Prod.fst effect)
        rw [effect] at unchanged
        obtain rfl : s' = s := unchanged
        refine ⟨h.silently Trace.silent_refused, ?_⟩
        rintro _ ⟨⟩ _ ⟨⟩
  · refine ⟨h.silently Trace.silent_fault, ?_⟩
    rintro _ ⟨⟩ _ ⟨⟩

/-- If the operation cannot do without the answer, it fails where there is none. -/
theorem Books.needed {call : StoreCall} {post : call.Reply → Trace → Store → Prop}
    (h : (tryStore call).Books
      (fun reply past' s' => ∀ a, reply = .ok a → post a past' s') past s) :
    (store call).Books post past s := by
  refine books_bind h fun reply past' s' ledger meets => ?_
  cases reply with
  | ok reply => exact books_pure ledger (meets reply rfl)
  | error e => exact books_fail ledger

theorem books_store {call : StoreCall} {post : call.Reply → Trace → Store → Prop}
    (h : s.Ledger past)
    (answered : ∀ now reply s', call.run now s = (.ok reply, s') →
      s'.Ledger (past ++ [.store call (.ok reply)]) ∧
        post reply (past ++ [.store call (.ok reply)]) s') :
    (store call).Books post past s :=
  (books_tryStore h answered).needed

/-- **Nothing happens to any run** in an operation that leaves runs and queue alone and hands
nothing over. -/
theorem books_quiet {op : Operation α} (h : s.Ledger past)
    (quiet : op.Asks StoreCall.LeavesRuns Q) :
    op.Books (fun a past' s' => Calm past s past' s' ∧ ∃ tr, op.Ends s tr (.ok a) s') past s := by
  intro tr res s' ends
  have silent : tr.Silent :=
    Program.Ends.silent ends (Program.Asks.mono (fun _ left => left.endsNoRun) (fun _ => id) quiet)
  obtain ⟨runs, queue⟩ : s'.runs = s.runs ∧ s'.queue = s.queue :=
    Program.Ends.within (R := fun s s' => s'.runs = s.runs ∧ s'.queue = s.queue)
      (fun _ => ⟨rfl, rfl⟩)
      (fun _ _ _ first second => ⟨second.1.trans first.1, second.2.trans first.2⟩)
      (fun _ left now s => left.run_eq now s) ends quiet.calls
  have calm : Calm past s (past ++ tr) s' := silent.calm runs queue (ends.later h.whole)
  refine ⟨h.calm calm (ends.integrity h.whole), ?_⟩
  rintro a rfl
  exact ⟨calm, tr, ends⟩

/-- **Lists.** What is kept from each element on is kept over the whole list, if what it rests on
is kept in later stores. -/
theorem books_mapM {f : α → Operation β} {P : Store → Prop} {post : β → Trace → Store → Prop}
    (rests : ∀ s s' : Store, s.Later s' → P s → P s')
    (stays : ∀ b past s past' s', Onward past s past' s' → post b past s → post b past' s')
    (each : ∀ a past s, s.Ledger past → P s →
      (f a).Books (fun b past' s' => Onward past s past' s' ∧ post b past' s') past s)
    (l : List α) (h : s.Ledger past) (holds : P s) :
    (l.mapM f).Books (fun bs past' s' => Onward past s past' s' ∧ ∀ b ∈ bs, post b past' s')
      past s := by
  induction l generalizing past s with
  | nil =>
      have still : Onward past s past s := ⟨fun _ => id, .refl s⟩
      exact books_pure h ⟨still, by simp⟩
  | cons a l ih =>
      rw [List.mapM_cons]
      refine books_bind (each a past s h holds) fun b past₁ s₁ h₁ ⟨first, meets⟩ => ?_
      refine books_bind (ih h₁ (rests s s₁ first.later holds)) fun bs past₂ s₂ h₂ ⟨rest, all⟩ => ?_
      refine books_pure h₂ ⟨first.trans rest, List.forall_mem_cons.mpr ⟨?_, all⟩⟩
      exact stays b past₁ s₁ past₂ s₂ rest meets

theorem keeps_pure (a : α) : (pure a : Operation α).Keeps := fun _ _ h => books_pure h trivial

theorem keeps_fail (e : OperationError) : (fail e : Operation α).Keeps := fun _ _ h => books_fail h

theorem keeps_bind {op : Operation α} {f : α → Operation β} (first : op.Keeps)
    (second : ∀ a, (f a).Keeps) : (op >>= f).Keeps := fun past s h =>
  books_bind (first past s h) fun a past' s' h' _ => second a past' s' h'

theorem keeps_attempt {op : Operation α} (h : op.Keeps) : (attempt op).Keeps := fun past s ledger =>
  (books_attempt (h past s ledger)).anyway

theorem keeps_quiet {op : Operation α} (quiet : op.Asks StoreCall.LeavesRuns Q) : op.Keeps :=
  fun _ _ h => (books_quiet h quiet).anyway

/-- Operations that only look things up keep the ledger. -/
theorem keeps_lookups {op : Operation α} (lookups : op.Asks StoreCall.IsLookup Q) : op.Keeps :=
  keeps_quiet (Program.Asks.mono (fun _ one => one.leavesRuns) (fun _ => id) lookups)

theorem compositional_keeps : Compositional fun _ => Keeps where
  pure := keeps_pure
  fail := keeps_fail
  bind := keeps_bind
  attempt := keeps_attempt
  lookup one := keeps_lookups (Q := Resolution.Anything) (asks_store one)

end Operation

open Operation

variable {past : Trace} {s : Store}

/-! ### Workers and cancellation -/

namespace Store.Ledger

/-- **Looking for the target** of a task: it is the address of what is said about its runs. -/
theorem target_books (h : s.Ledger past) (task : Id) :
    (tryStore (.getTarget task)).Books (fun reply past' s' => Calm past s past' s' ∧
      ∀ target owner, reply = .ok target → target.owner = some owner →
        s'.Addresses task ⟨owner.token, target.repository.name, target.sha⟩) past s := by
  have lookup : (StoreCall.getTarget task).LeavesRuns := trivial
  have quiet : (tryStore (.getTarget task)).Asks StoreCall.LeavesRuns Resolution.Anything :=
    asks_tryStore lookup
  refine (books_quiet h quiet).mono ?_
  rintro reply past' s' ⟨calm, tr, ends⟩
  refine ⟨calm, ?_⟩
  rintro target owner rfl owned
  rcases ends_tryStore.mp ends with ⟨now, reply, effect, eq, -⟩ | ⟨e, -, eq, -⟩
  · cases eq
    obtain rfl : s = s' := congrArg Prod.snd effect
    exact h.whole.addresses_target (congrArg Prod.fst effect) owned
  · cases eq

theorem neededTarget_books (h : s.Ledger past) (task : Id) :
    (store (.getTarget task)).Books (fun target past' s' => Calm past s past' s' ∧
      ∀ owner, target.owner = some owner →
        s'.Addresses task ⟨owner.token, target.repository.name, target.sha⟩) past s := by
  refine Books.needed ((h.target_books task).mono ?_)
  rintro _ past' s' ⟨calm, found⟩ target rfl
  exact ⟨calm, fun owner owned => found target owner rfl owned⟩

theorem finishRun_books (h : s.Ledger past) (run : Id) (success : Bool) :
    (tryStore (.finishRun run success)).Books (fun reply past' s' => ∀ done, reply = .ok done →
      done.run.Due past' s' (.recorded success)) past s :=
  books_tryStore h fun _ _ _ effect => h.finishRun effect

theorem cancelTask_books (h : s.Ledger past) (task : Id) :
    (store (.cancelTask task)).Books (fun (runs : List Run) past' s' => (runs.map (·.id)).Nodup ∧
      ∀ r ∈ runs, r.task = task ∧ r.Due past' s' .canceled) past s := by
  refine @books_store past s (.cancelTask task) _ h ?_
  intro now runs s' effect
  exact h.cancelTask effect

theorem dequeue_books (h : s.Ledger past) (queue worker : String) :
    (store (.dequeue queue worker)).Books
      (fun (item : QueueItem) past' s' => item.run.Claimed past' s') past s :=
  books_store h fun _ _ _ effect => h.dequeue effect

end Store.Ledger

namespace Worker

/-- Recording the status of a run **keeps the ledger**. -/
theorem setStatus_keeps (run : Id) (success : Bool) (message : String) :
    (setStatus run success message).Keeps := by
  intro past s h
  refine books_bind (h.finishRun_books run success).needed fun done past₁ s₁ h₁ due => ?_
  refine books_bind (h₁.target_books done.run.task) fun reply past₂ s₂ h₂ ⟨calm, found⟩ => ?_
  cases reply with
  | error e => exact books_pure h₂ trivial
  | ok target =>
      cases owned : target.owner with
      | none =>
          simp only [owned]
          exact books_pure h₂ trivial
      | some owner =>
          simp only [owned]
          have address := found target owner rfl owned
          have said := h₂.ended (n := noticeTo target owner
            (.finished done.run.id done.run.name success message)) (due.calm calm) rfl rfl address
          exact books_bind (books_notify said) fun _ _ _ h₃ _ => books_pure h₃ trivial

/-- So does **claiming** an item. -/
theorem next_keeps (queue worker : String) : (next queue worker).Keeps := by
  intro past s h
  rw [next]
  split
  case' isTrue => refine books_bind (books_fail h) fun _ past s h (_ : True) => ?_
  all_goals
    refine books_bind (h.dequeue_books _ worker) fun item past₁ s₁ h₁ claimed => ?_
    refine books_bind (books_stage (h₁.neededTarget_books _)) fun target past₂ s₂ h₂ found => ?_
    obtain ⟨calm, address⟩ := found
    cases owned : target.owner with
    | none =>
        exact books_bind (h₂.finishRun_books item.run.id false) fun _ _ _ h₃ _ => books_fail h₃
    | some owner =>
        have said := h₂.started (n := noticeTo target owner
          (.started item.run.id item.run.name)) (claimed.calm calm) rfl (address owner owned)
        exact books_bind (books_notify said) fun _ _ _ h₃ _ => books_pure h₃ trivial

end Worker

namespace Cancellation

/-- That the runs of a canceled task **have failed** is entered, run by run. -/
theorem notices_books {target : TaskTarget} {owner : User} {task : Id} {runs : List Run}
    (h : s.Ledger past)
    (address : s.Addresses task ⟨owner.token, target.repository.name, target.sha⟩)
    (distinct : (runs.map (·.id)).Nodup)
    (due : ∀ r ∈ runs, r.task = task ∧ r.Due past s .canceled) :
    (runs.forM fun run => notify (notice target owner run)).Books (fun _ _ _ => True) past s := by
  induction runs generalizing past with
  | nil => exact books_pure h trivial
  | cons r rest ih =>
      obtain ⟨⟨own, due⟩, later⟩ := List.forall_mem_cons.mp due
      obtain ⟨apart, distinct⟩ := List.nodup_cons.mp distinct
      have said := h.ended (n := notice target owner r) due rfl rfl (own ▸ address)
      refine books_bind (books_notify said) fun _ past' s' h' ⟨same, unchanged⟩ => ?_
      subst same unchanged
      refine ih h' distinct fun q mem => ?_
      refine ⟨(later q mem).1, (later q mem).2.other (n := notice target owner r) rfl ?_⟩
      intro same
      exact apart (List.mem_map.mpr ⟨q, mem, same⟩)

/-- Canceling a **task** keeps the ledger. -/
theorem task_keeps (id : Id) : (task id).Keeps := by
  intro past s h
  refine books_bind (h.cancelTask_books id) fun runs past₁ s₁ h₁ ⟨distinct, due⟩ => ?_
  refine books_bind (h₁.target_books id) fun reply past₂ s₂ h₂ ⟨calm, found⟩ => ?_
  cases reply with
  | error e => exact books_pure h₂ trivial
  | ok target =>
      cases owned : target.owner with
      | none =>
          simp only [owned]
          exact books_pure h₂ trivial
      | some owner =>
          simp only [owned]
          have address := found target owner rfl owned
          have said := notices_books h₂ address distinct fun r mem =>
            ⟨(due r mem).1, (due r mem).2.calm calm⟩
          exact books_bind said fun _ _ _ h₃ _ => books_pure h₃ trivial

theorem ref_keeps (repository : Id) (name defaultBranch : String) :
    (ref repository name defaultBranch).Keeps :=
  compositional_keeps.cancelRef task_keeps repository name defaultBranch

end Cancellation

/-! ### Taking a submission in -/

namespace Resolved

variable {r : Resolved} {s' : Store}

/-- Where the notifications about a submission **go**. -/
def address (r : Resolved) : Address := ⟨r.token, r.parent.name, r.head.sha⟩

/-- What the address **rests on** is in the store. -/
structure Grounded (r : Resolved) (s : Store) : Prop where
  parent : r.parent ∈ s.repositories
  head : r.head ∈ s.refs
  owner : ∃ owner ∈ s.users, r.parent.owner = some owner.id ∧ r.token = owner.token

theorem Grounded.later (h : r.Grounded s) (later : s.Later s') : r.Grounded s' where
  parent := later.repositories.subset h.parent
  head := later.refs.subset h.head
  owner := h.owner.imp fun _ => .imp_left fun known => later.users.subset known

/-- Besides, its submission **is recorded** for the head. -/
structure Recorded (r : Resolved) (submission : Id) (s : Store) : Prop extends r.Grounded s where
  stored : ∃ x ∈ s.submissions, x.id = submission ∧ x.tested = r.head.id

theorem Recorded.later {submission : Id} (h : r.Recorded submission s) (later : s.Later s') :
    r.Recorded submission s' where
  toGrounded := h.toGrounded.later later
  stored := h.stored.imp fun _ => .imp_left fun known => later.submissions.subset known

/-- A task that is recorded for the submission has **this address**. -/
theorem Recorded.addresses {submission : Id} (h : r.Recorded submission s) {t : Task}
    (known : t ∈ s.tasks) (own : t.submission = submission) (parent : t.repository = r.parent.id) :
    s.Addresses t.id r.address := by
  obtain ⟨owner, knownOwner, owns, token⟩ := h.owner
  obtain ⟨x, stored, same, tested⟩ := h.stored
  exact ⟨t, known, rfl, ⟨r.parent, h.parent, parent.symm, rfl, owner, knownOwner, owns, token⟩,
    x, stored, same.trans own.symm, r.head, h.head, tested.symm, rfl⟩

end Resolved

namespace Resolution

/-- What has been **resolved** is grounded. -/
theorem resolve_books (request : SubmissionRequest) (h : s.Ledger past) :
    (resolve request).Books (fun r _ s' => r.Grounded s') past s := by
  have registers : (survey request).Asks StoreCall.LeavesRuns HostCall.IsEssential :=
    (asks_survey request).mono (fun _ one => one.leavesRuns) fun _ => id
  rw [resolve_eq]
  refine books_bind (books_quiet h registers) fun found past₁ s₁ h₁ ⟨_, tr, surveyed⟩ => ?_
  obtain ⟨r, main, headSha⟩ := found
  have grounded : r.Grounded s₁ := by
    obtain ⟨-, -, found, -⟩ := survey_ends_ok surveyed
    exact ⟨found.parent, found.head, survey_owner surveyed⟩
  have canceling : (attempt (Cancellation.ref r.fork.id r.head.name main)).Keeps :=
    keeps_attempt (Cancellation.ref_keeps _ _ _)
  refine books_bind ((canceling past₁ s₁ h₁).later h₁.whole) fun _ past₂ s₂ h₂ ⟨_, later⟩ => ?_
  have clearing : (tryHost r.token (.clearStatuses r.parent.name headSha)).Asks
      StoreCall.LeavesRuns Anything := asks_tryHost trivial
  refine books_bind (books_quiet h₂ clearing) fun _ past₃ s₃ h₃ ⟨calm, _⟩ => ?_
  exact books_pure h₃ ((grounded.later later).later calm.later)

end Resolution

namespace Picking

variable {r : Resolved}

/-- Storing a run either fails and **leaves no trace**, or it is all that happens. -/
theorem storing_ends {new : NewRun} {tr : Trace} {res : Except OperationError Run} {s' : Store}
    (h : Ends (ofDomain new.validate >>= fun _ => store (.createRun new)) s tr res s')
    (whole : s.Integrity) :
    ((∃ e, res = .error e) ∧ tr.Silent ∧ s' = s) ∨
      ∃ now run, res = .ok run ∧ tr = [.store (.createRun new) (.ok run)] ∧
        Store.createRun now new s = (.ok run, s') := by
  have nothing : Trace.Silent [] := fun _ => ⟨rfl, rfl⟩
  rcases ends_bind.mp h with ⟨e, refused, rfl⟩ | ⟨_, s₁, tr₁, tr₂, valid, stored, rfl⟩
  · obtain ⟨rfl, -, rfl⟩ := ends_ofDomain.mp refused
    exact .inl ⟨⟨e, rfl⟩, nothing, rfl⟩
  · obtain ⟨rfl, -, rfl⟩ := ends_ofDomain_ok.mp valid
    rcases ends_store.mp stored with
      ⟨now, run, effect, rfl, rfl⟩ | ⟨now, e, effect, rfl, rfl⟩ | ⟨e, rfl, rfl, rfl⟩
    · exact .inr ⟨now, run, rfl, rfl, effect⟩
    · have unchanged := (StoreCall.createRun new).run_atomic whole now (congrArg Prod.fst effect)
      rw [effect] at unchanged
      exact .inl ⟨⟨_, rfl⟩, Trace.silent_refused, unchanged⟩
    · exact .inl ⟨⟨_, rfl⟩, Trace.silent_fault, rfl⟩

/-- A run that is created is **announced at once**, to the address of its task. -/
theorem createRun_books {task : Task} (dir : String) (settings : RunSettings) (h : s.Ledger past)
    (address : s.Addresses task.id r.address) :
    (createRun r task dir settings).Books
      (fun run past' s' => Onward past s past' s' ∧ run.Announced past' s') past s := by
  intro tr res s' ends
  have later := ends.later h.whole
  rw [createRun] at ends
  rcases ends_bind.mp ends with ⟨e, staged, rfl⟩ | ⟨run, s₁, tr₁, _, staged, rest, rfl⟩
  · obtain ⟨cause, stored, -⟩ := ends_stage_error.mp staged
    rcases storing_ends stored h.whole with ⟨-, silent, rfl⟩ | ⟨_, _, impossible, -⟩
    · exact ⟨h.silently silent, by simp⟩
    · cases impossible
  · rcases storing_ends (ends_stage_ok.mp staged) h.whole with
      ⟨⟨e, impossible⟩, -⟩ | ⟨now, _, eq, rfl, effect⟩
    · cases impossible
    · cases eq
      rcases ends_bind.mp rest with ⟨e, impossible, -⟩ | ⟨_, s₂, _, _, noticed, last, rfl⟩
      · exact absurd impossible not_ends_notify_error
      · obtain ⟨rfl, -, rfl⟩ := ends_notify.mp noticed
        obtain ⟨rfl, rfl, rfl⟩ := ends_pure.mp last
        obtain ⟨ledger, announced, others⟩ :=
          h.createRun (n := pendingNotice r run) effect rfl address
        refine ⟨ledger, ?_⟩
        rintro _ ⟨⟩
        exact ⟨⟨others, later⟩, announced⟩

/-- A task is created with runs that are **all announced**. -/
theorem createTask_books {submission : Submission} (dir : String) (settings : TaskSettings)
    (h : s.Ledger past) (recorded : r.Recorded submission.id s) :
    (createTask r submission dir settings).Books (fun created past' s' =>
      Onward past s past' s' ∧ ∀ run ∈ created.2, run.Announced past' s') past s := by
  have storing : (stage ("creating task " ++ dir) (store (.createTask
      ⟨submission.id, r.parent.id, dir, settings, r.ticket⟩))).Asks StoreCall.LeavesRuns
        Resolution.Anything := asks_stage (asks_store trivial)
  refine books_bind (books_quiet h storing) fun t past₁ s₁ h₁ quiet => ?_
  obtain ⟨calm, tr, stored⟩ := quiet
  have address : s₁.Addresses t.id r.address := by
    rcases storeTask_ends (ends_stage_ok.mp stored) with
      ⟨t', eq, own, added⟩ | ⟨⟨e, impossible⟩, -⟩
    · cases eq
      have known : t ∈ s₁.tasks := by simp [added, Store.addWork]
      exact (recorded.later calm.later).addresses known own.submission own.repository
    · cases impossible
  have creating : (settings.runs.values.mapM (createRun r t dir)).Books (fun runs past' s' =>
      Onward past₁ s₁ past' s' ∧ ∀ run ∈ runs, run.Announced past' s') past₁ s₁ := by
    refine books_mapM (P := fun s => s.Addresses t.id r.address) ?_ ?_ ?_ _ h₁ address
    · exact fun _ _ later address => address.later later
    · exact fun run _ _ _ _ onward => onward.announced run
    · exact fun settings _ _ h address => createRun_books dir settings h address
  refine books_bind creating fun runs past₂ s₂ h₂ created => ?_
  obtain ⟨onward, announced⟩ := created
  exact books_pure h₂ ⟨calm.onward.trans onward, announced⟩

/-- A submission is **filled** with runs that are all announced. -/
theorem fill_books {limit : Nat} {selected : Directories} {submission : Submission}
    (h : s.Ledger past) (recorded : r.Recorded submission.id s) :
    (fill limit r selected submission).Books (fun picked past' s' =>
      ∀ run ∈ picked.runs, run.Announced past' s') past s := by
  have loading : Asks StoreCall.LeavesRuns (AsksForDeclaration r)
      (ExceptT.lift (load limit r selected)) :=
    asks_lift ((asks_load limit selected).mono (fun _ one => one.leavesRuns) fun _ => id)
  refine books_bind (books_quiet h loading) fun loaded past₁ s₁ h₁ ⟨calm, _⟩ => ?_
  cases loaded with
  | error failure =>
      obtain ⟨dir, e⟩ := failure
      have refusing : (complain r dir e >>= fun _ =>
          (stage ("parsing task " ++ dir) (fail e) : Operation Picked)).Keeps :=
        keeps_lookups (asks_bind (asks_complain dir e) fun _ => asks_stage (asks_fail _))
      intro tr res s' ends
      obtain ⟨-, e', rfl⟩ := refuse_ends ends
      exact ⟨(refusing past₁ s₁ h₁ tr _ s' ends).1, by simp⟩
  | ok loaded =>
      have creating : (loaded.entries.mapM fun (dir, settings) =>
          createTask r submission dir settings).Books
            (fun (created : List (Task × List Run)) past' s' => Onward past₁ s₁ past' s' ∧
              ∀ one ∈ created, ∀ run ∈ one.2, run.Announced past' s') past₁ s₁ := by
        refine books_mapM (P := r.Recorded submission.id) ?_ ?_ ?_ _ h₁ (recorded.later calm.later)
        · exact fun _ _ later recorded => recorded.later later
        · exact fun _ _ _ _ _ onward announced run mem => onward.announced run (announced run mem)
        · exact fun one _ _ h recorded => createTask_books one.1 one.2 h recorded
      refine books_bind creating fun created past₂ s₂ h₂ ⟨_, announced⟩ => ?_
      refine books_pure h₂ fun run mem => ?_
      obtain ⟨_, listed, own⟩ := List.mem_flatten.mp mem
      obtain ⟨one, known, rfl⟩ := List.mem_map.mp listed
      exact announced one known run own

/-- **What has been picked has been announced.** -/
theorem pick_books (limit : Nat) (h : s.Ledger past) (grounded : r.Grounded s) :
    (pick limit r).Books (fun picked past' s' => ∀ run ∈ picked.runs, run.Announced past' s')
      past s := by
  rw [pick_eq]
  have choosing : (choose r).Asks StoreCall.LeavesRuns _ :=
    (asks_choose r).mono (fun _ one => one.leavesRuns) fun _ => id
  refine books_bind (books_quiet h choosing) fun selected past₁ s₁ h₁ ⟨calm₁, _⟩ => ?_
  have recording : (stage "recording submission" (store (.createSubmission (record r)))).Asks
      StoreCall.LeavesRuns Resolution.Anything := asks_stage (asks_store trivial)
  refine books_bind (books_quiet h₁ recording) fun x past₂ s₂ h₂ ⟨calm₂, tr, recorded⟩ => ?_
  refine fill_books h₂ ⟨(grounded.later calm₁.later).later calm₂.later, ?_⟩
  obtain ⟨-, ⟨⟨e, impossible⟩, -⟩ | ⟨now, rfl, ⟨e, impossible⟩ | ⟨_, eq, own⟩⟩⟩ :=
    createSubmission_ends recorded
  · cases impossible
  · cases impossible
  · cases eq
    refine ⟨s₁.newSubmission now (record r), ?_, own.symm, Intake.record_tested s₁ now r⟩
    exact List.mem_append_right _ (List.mem_singleton_self _)

end Picking

namespace Intake

variable {r : Resolved}

theorem failRuns_keeps (message : String) (runs : List Run) : (failRuns message runs).Keeps :=
  compositional_keeps.failRuns Worker.setStatus_keeps message runs

/-- Announced runs are **put on the queue**, or they fail. -/
theorem lineUp_books {p : Picked} (h : s.Ledger past)
    (announced : ∀ run ∈ p.runs, run.Announced past s) :
    (lineUp p).Books (fun _ _ _ => True) past s := by
  have pending : ∀ new ∈ p.batch, past.stages new.run = [.pending] :=
    List.forall_mem_map.mpr fun run mem => (announced run mem).pending
  have queueing : (tryStore (.enqueue p.batch)).Books
      (fun reply _ _ => ∀ shown, reply = .ok shown → True) past s :=
    books_tryStore h fun _ _ _ effect => ⟨h.enqueue effect pending, trivial⟩
  refine books_bind queueing fun reply past₁ s₁ h₁ _ => ?_
  cases reply with
  | error e =>
      have failing : (failRuns ("Canceled due to error: " ++ e.message) p.runs >>= fun _ =>
          (stage "enqueueing runs" (fail e) : Operation Submitted)).Keeps :=
        keeps_bind (failRuns_keeps _ _) fun _ => fun _ _ h => books_stage (books_fail h)
      exact failing past₁ s₁ h₁
  | ok items =>
      have reloading : (stage "reloading submission" (store (.getSubmission p.submission.id)) >>=
          fun submission => (pure ⟨submission, items⟩ : Operation Submitted)).Asks
            StoreCall.IsLookup Resolution.Anything :=
        asks_bind (asks_stage (asks_store trivial)) fun _ => asks_pure _
      exact keeps_lookups reloading past₁ s₁ h₁

/-- **Taking a submission in** keeps the ledger. -/
theorem submit_keeps (limit : Nat) (request : SubmissionRequest) :
    (submit limit request).Keeps := by
  intro past s h
  refine books_bind (books_stage (Resolution.resolve_books request h))
    fun r past₁ s₁ h₁ grounded => ?_
  have starting : (start limit r).Books (fun _ _ _ => True) past₁ s₁ := by
    rw [start_eq]
    exact books_bind (books_stage (Picking.pick_books limit h₁ grounded))
      fun p past₂ s₂ h₂ announced => lineUp_books h₂ announced
  refine books_bind (books_attempt starting) fun outcome past₂ s₂ h₂ _ => ?_
  cases outcome with
  | ok submitted => exact books_pure h₂ trivial
  | error e =>
      have silent : Trace.Silent [Event.notice (notStarted r e)] :=
        fun _ => ⟨Trace.about_none rfl, Trace.endings_notice⟩
      exact books_bind (books_notify (h₂.silently silent)) fun _ _ _ h₃ _ => books_fail h₃

end Intake

/-! ### Orders -/

theorem Demand.keeps (d : Demand) : d.operation.Keeps :=
  composed compositional_keeps (fun _ => Intake.submit_keeps) Worker.next_keeps
    Worker.setStatus_keeps Cancellation.task_keeps

/-- **Every order** keeps the ledger. -/
theorem Order.keeps (o : Order) : o.operation.Keeps := by
  cases o with
  | demand d => exact d.keeps
  | showSubmission | showTask =>
      exact keeps_lookups (Q := Resolution.Anything) (asks_store trivial)

end Dispatch
