import Dispatch.Proofs.Submission.Intake

/-!
# Histories

The dispatcher starts with users and repositories, and then meets one demand after the other. Each
is met in full, whatever the code host answers, but any call to the store may fail. What holds of
the store between two demands holds in the middle of every history.

## Main definitions

* `Demand`: what the dispatcher can be asked to do.
* `Order`: a demand, or a record to show.
* `Store.Seeded`: a store of users and repositories.
* `Store.ReachableBy`: a store between two demands.
* `Store.LeadsTo`: a later store, any demands later.

## Main results

* `Store.ReachableBy.coherent`: tasks, runs and queue items agree.
* `Store.ReachableBy.accounted`: where the store never fails, no run is lost.
-/

namespace Dispatch

/-! ### Demands -/

/-- What the dispatcher can be **asked to do**. -/
inductive Demand where
  | submit (limit : Nat) (request : SubmissionRequest)
  | take (limit : Nat) (what : Intake)
  | next (queue worker : String)
  | setStatus (run : Id) (success : Bool) (message : String)
  /-- A worker that gives up its run demands the same. -/
  | cancelRun (run : Id)
  | cancelTask (task : Id)
  | cancelRef (repository : Id) (name defaultBranch : String)
  | cancelPullRequest (repository : String) (number : Int64)
  | cancelSubmission (submission : Id)
  | isCanceled (run : Id)
  | listQueue (page : Page) (repository : Option String)
  | countQueue (repository : Option String)

namespace Demand

/-- What a demand is **answered** with. -/
abbrev Answer : Demand → Type
  | submit _ _ => Submitted
  | take _ _ => IntakeOutcome
  | next _ _ => QueueItem
  | setStatus _ _ _ => Run
  | cancelRun _ | cancelTask _ => List Run
  | cancelRef _ _ _ | cancelPullRequest _ _ | cancelSubmission _ | countQueue _ => Nat
  | isCanceled _ => Bool
  | listQueue _ _ => Option (List QueueItem)

/-- What the dispatcher **does** on a demand. -/
def operation : (d : Demand) → Operation d.Answer
  | submit limit request => Intake.submit limit request
  | take limit what => Intake.take limit what
  | next queue worker => Worker.next queue worker
  | setStatus run success message => Worker.setStatus run success message
  | cancelRun run => Cancellation.run run
  | cancelTask task => Cancellation.task task
  | cancelRef repository name defaultBranch => Cancellation.ref repository name defaultBranch
  | cancelPullRequest repository number => Cancellation.pullRequest repository number
  | cancelSubmission submission => Cancellation.submission submission
  | isCanceled run => Worker.isCanceled run
  | listQueue page repository => Worker.listQueue page repository
  | countQueue repository => Worker.countQueue repository

open Operation

variable {s s' : Store} {tr : Trace}

/-- A demand to take a **submission** in. -/
def Submits : Demand → Prop
  | submit _ _ | take _ (.submission _) => True
  | _ => False

/-- What taking a submission in, workers' operations and canceling one task have, **all demands**
have. -/
theorem composed {K : (α : Type) → Operation α → Prop} (h : Compositional K) {d : Demand}
    (submit : d.Submits → ∀ limit request, K Submitted (Intake.submit limit request))
    (next : ∀ queue worker, K QueueItem (Worker.next queue worker))
    (setStatus : ∀ run success message, K Run (Worker.setStatus run success message))
    (task : ∀ id, K (List Run) (Cancellation.task id)) : K d.Answer d.operation := by
  cases d with
  | submit limit request => exact submit trivial limit request
  | take limit what =>
      cases what with
      | submission request => exact h.bind (submit trivial limit request) fun _ => h.pure _
      | closedPullRequest repository number =>
          exact h.bind (h.cancelPullRequest task repository number) fun _ => h.pure _
  | next queue worker => exact next queue worker
  | setStatus run success message => exact setStatus run success message
  | cancelRun run => exact h.cancelRun task run
  | cancelTask id => exact task id
  | cancelRef repository name main => exact h.cancelRef task repository name main
  | cancelPullRequest repository number => exact h.cancelPullRequest task repository number
  | cancelSubmission submission => exact h.cancelSubmission task submission
  | isCanceled run =>
      exact h.bind (h.lookup trivial) fun _ => h.bind (h.lookup trivial) fun _ => h.pure _
  | listQueue page repository =>
      cases repository with
      | none =>
          have one : (StoreCall.listQueue page).IsLookup := trivial
          exact h.lookup one
      | some name =>
          refine h.bind (h.lookup trivial) fun repository => ?_
          have one : (StoreCall.listQueueOf repository.id page).IsLookup := trivial
          exact h.lookup one
  | countQueue repository =>
      cases repository with
      | none =>
          have one : StoreCall.countQueue.IsLookup := trivial
          exact h.lookup one
      | some name =>
          refine h.bind (h.lookup trivial) fun repository => ?_
          have one : (StoreCall.countQueueOf repository.id).IsLookup := trivial
          exact h.lookup one

/-- All other demands **add no work**. -/
theorem calls_quiet {d : Demand} (other : ¬ d.Submits) {Q : HostCall → Prop} :
    d.operation.Calls StoreCall.AddsNoWork Q :=
  composed compositional_addsNoWork (fun submits => absurd submits other) Worker.calls_next
    Worker.calls_setStatus Cancellation.calls_task

/-- On a demand, either a submission is taken in or **no work is added**. -/
theorem ends_cases {d : Demand} {res : Except OperationError d.Answer}
    (h : d.operation.Ends s tr res s') :
    (∃ limit request outcome, (Intake.submit limit request).Ends s tr outcome s') ∨
      d.operation.Calls StoreCall.AddsNoWork Resolution.Anything := by
  cases d with
  | submit limit request => exact .inl ⟨limit, request, res, h⟩
  | take limit what =>
      cases what with
      | submission request =>
          rcases ends_bind.mp h with ⟨e, failed, -⟩ | ⟨result, s₁, tr₁, tr₂, taken, last, rfl⟩
          · exact .inl ⟨limit, request, _, failed⟩
          · obtain ⟨rfl, -, rfl⟩ := ends_pure.mp last
            rw [List.append_nil]
            exact .inl ⟨limit, request, _, taken⟩
      | closedPullRequest repository number => exact .inr (calls_quiet id)
  | _ => exact .inr (calls_quiet id)

/-- Tasks, runs and queue items agree after each demand. -/
theorem coherent {d : Demand} {res : Except OperationError d.Answer}
    (h : d.operation.Ends s tr res s') (whole : s.Integrity) (holds : s.Coherent) :
    s'.Coherent := by
  rcases ends_cases h with ⟨limit, request, outcome, submitted⟩ | quiet
  · exact Intake.submit_coherent submitted whole holds
  · exact h.coherent quiet whole holds

/-- Where the store does not fail, every run is accounted for after each demand. -/
theorem accounted {d : Demand} {res : Except OperationError d.Answer}
    (h : d.operation.Ends s tr res s') (faultless : tr.Faultless) (whole : s.Integrity)
    (holds : s.Accounted) : s'.Accounted := by
  rcases ends_cases h with ⟨limit, request, outcome, submitted⟩ | quiet
  · exact Intake.submit_accounted submitted faultless whole holds
  · exact h.accounted quiet whole holds

end Demand

/-- An **order** to the dispatcher: a demand, or a record that is to be shown. -/
inductive Order where
  | demand (d : Demand)
  | showSubmission (id : Id)
  | showTask (id : Id)

namespace Order

/-- What an order is answered with. -/
abbrev Answer : Order → Type
  | demand d => d.Answer
  | showSubmission _ => Submission
  | showTask _ => Task

/-- What the dispatcher does on an order. -/
def operation : (o : Order) → Operation o.Answer
  | demand d => d.operation
  | showSubmission id => Operation.store (.getSubmission id)
  | showTask id => Operation.store (.getTask id)

end Order

/-! ### Reachable stores -/

namespace Store

/-- A store of **users and repositories**, added one after the other. -/
inductive Seeded : Store → Prop
  | empty : Seeded empty
  | user {s : Store} (now : Timestamp) (username token : String) :
      Seeded s → Seeded (createUser now username token s).2
  | repository {s : Store} (now : Timestamp) (new : NewRepository) :
      Seeded s → Seeded (createRepository now new s).2

theorem Seeded.holds {s : Store} (h : s.Seeded) : s.Integrity ∧ s.Coherent ∧ s.Accounted := by
  have step {s s' : Store} (holds : s.Integrity ∧ s.Coherent ∧ s.Accounted)
      (st : Step s s') : s'.Integrity ∧ s'.Coherent ∧ s'.Accounted :=
    ⟨holds.1.step st, holds.2.1.step holds.1 st, holds.2.2.step holds.1 st⟩
  induction h with
  | empty => exact ⟨integrity_empty, coherent_empty, accounted_empty⟩
  | user now username token _ ih =>
      exact step ih (StoreCall.run_step ih.1 (.createUser username token) trivial now)
  | repository now new _ ih =>
      exact step ih (StoreCall.run_step ih.1 (.createRepository new) trivial now)

/-- A store that is **reachable** from users and repositories by demands that are met one after
the other. In the course of each demand only what is possible happens. -/
inductive ReachableBy (possible : Trace → Prop) : Store → Prop
  | seeded {s : Store} : s.Seeded → ReachableBy possible s
  | demand {s s' : Store} {tr : Trace} (d : Demand) {res : Except OperationError d.Answer} :
      ReachableBy possible s → d.operation.Ends s tr res s' → possible tr →
        ReachableBy possible s'

namespace ReachableBy

variable {possible : Trace → Prop} {s : Store}

theorem integrity (h : s.ReachableBy possible) : s.Integrity := by
  induction h with
  | seeded seeded => exact seeded.holds.1
  | demand d _ ends _ ih => exact ends.integrity ih

/-- Whatever happens, tasks, runs and queue items **agree**. -/
theorem coherent (h : s.ReachableBy possible) : s.Coherent := by
  induction h with
  | seeded seeded => exact seeded.holds.2.1
  | demand d before ends _ ih => exact Demand.coherent ends before.integrity ih

/-- Where the store never fails, every run **is accounted for**. -/
theorem accounted (h : s.ReachableBy Trace.Faultless) : s.Accounted := by
  induction h with
  | seeded seeded => exact seeded.holds.2.2
  | demand d before ends faultless ih =>
      exact Demand.accounted ends faultless before.integrity ih

/-- A session in which nothing is to fail in the store leads on to a reachable store. -/
theorem perform {σ σ' : Session} {d : Demand} {res : Except OperationError d.Answer}
    (h : σ.store.ReachableBy possible) (silent : σ.faults = [])
    (all : ∀ tr, Trace.Faultless tr → possible tr)
    (run : Session.perform d.operation σ = some (res, σ')) :
    σ'.store.ReachableBy possible ∧ σ'.faults = [] := by
  obtain ⟨tr, ends, faultless⟩ := Session.perform_ends run
  obtain ⟨silent', faultless⟩ := faultless silent
  exact ⟨h.demand d ends (all tr faultless), silent'⟩

end ReachableBy

/-- What a store **leads to** when demands are met one after the other, whatever happens. -/
inductive LeadsTo (s : Store) : Store → Prop
  | now : LeadsTo s s
  | demand {s₁ s₂ : Store} {tr : Trace} (d : Demand) {res : Except OperationError d.Answer} :
      LeadsTo s s₁ → d.operation.Ends s₁ tr res s₂ → LeadsTo s s₂

theorem LeadsTo.reachable {s s' : Store} (h : s.LeadsTo s') (start : s.ReachableBy fun _ => True) :
    s'.ReachableBy fun _ => True := by
  induction h with
  | now => exact start
  | demand d _ ends ih => exact ih.demand d ends trivial

/-- Later there are the same repositories, refs and submissions, and perhaps more. -/
theorem LeadsTo.grows {s s' : Store} (h : s.LeadsTo s') (whole : s.Integrity) :
    s'.Integrity ∧ s.Grows s' := by
  induction h with
  | now => exact ⟨whole, .refl s⟩
  | demand d _ ends ih => exact ⟨ends.integrity ih.1, ih.2.trans (ends.grows ih.1)⟩

end Store

/-! ### A history -/

namespace Session

/-- The operation succeeds in the session, and the result and the session after it meet a
condition. -/
def succeeds {α : Type} (op : Operation α) (σ : Session) (p : α → Session → Bool) : Bool :=
  match perform op σ with
  | some (.ok a, σ') => p a σ'
  | _ => false

theorem exists_of_succeeds {α : Type} (op : Operation α) (σ : Session) (p : α → Session → Bool)
    (h : succeeds op σ p = true) :
    ∃ a σ', perform op σ = some (.ok a, σ') ∧ p a σ' = true := by
  rw [succeeds] at h
  split at h
  · next a σ' run => exact ⟨a, σ', run, h⟩
  · cases h

/-- The operation fails in the session, and the error and the session after it meet a condition. -/
def fails {α : Type} (op : Operation α) (σ : Session) (p : OperationError → Session → Bool) :
    Bool :=
  match perform op σ with
  | some (.error e, σ') => p e σ'
  | _ => false

theorem exists_of_fails {α : Type} (op : Operation α) (σ : Session)
    (p : OperationError → Session → Bool) (h : fails op σ p = true) :
    ∃ e σ', perform op σ = some (.error e, σ') ∧ p e σ' = true := by
  rw [fails] at h
  split at h
  · next e σ' run => exact ⟨e, σ', run, h⟩
  · cases h

end Session

namespace Sample

/-- A task with one run. -/
def declaration : String :=
  "mountpoint \"/src\"\ndefault-image \"rust:1\"\nrun \"test\" \x7b\n  command \"cargo\"\n\x7d\n"

/-- The base and two commits that follow each other on a branch. -/
def base : String := "1111111111111111111111111111111111111111"
def first : String := "2222222222222222222222222222222222222222"
def second : String := "3333333333333333333333333333333333333333"

/-- A code host with one repository, which declares a task in its root. -/
def host : HostScript where
  repositories := [⟨"ada/tool", false, false, none, some "main", .object []⟩]
  shas := []
  refs := [("*", base, ["heads/main"]), ("*", first, ["heads/feature"]),
    ("*", second, ["heads/feature"])]
  files := [("*", "*", "task.kdl", Text.encodeUtf8 declaration)]
  trees := []
  diffs := []
  faults := []

/-- The repository as it is registered. -/
def repository : NewRepository where
  name := "ada/tool"
  isPrivate := false
  disabled := false
  defaultBranch := some "main"
  metadata := .object []
  owner := some (.issued .user 1)
  hookSecret := none

/-- A store with the repository and its owner. -/
def store : Store :=
  (Store.createRepository (.startOfYear 0) repository
    (Store.createUser (.startOfYear 0) "ada" "token" .empty).2).2

/-- A session in which nothing is to fail. -/
def session : Session := { Session.new host 10 [] with store }

/-- The demand to test a commit against the base. -/
def request (head : String) : SubmissionRequest where
  parent := "ada/tool"
  fork := "ada/tool"
  head := head
  base := base
  pullRequest := none
  submittedBy := some "ada"
  all := false
  manual := false

theorem reachable (possible : Trace → Prop) : session.store.ReachableBy possible :=
  .seeded (.repository _ _ (.user _ _ _ .empty))

end Sample

end Dispatch
