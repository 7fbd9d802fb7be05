import Dispatch.Proofs.Reporting.Bookkeeping

/-!
# What is said about a run

The dispatcher starts with users and repositories and then meets one order after the other. Its
chronicle is all that has happened so far, and in the chronicle, what is said about a run is
consistent from the first notification to the last, whatever failed on the way.

## Main definitions

* `Chronicle`: what has happened up to a store between two orders.
* `Run.Reported`: what is said about a run is consistent.

## Main results

* `Chronicle.ledger`: the ledger is always up to date.
* `Chronicle.reports_consistent`: every run that has been created is there and consistently
  reported.
-/

namespace Dispatch

/-- A **chronicle**: all that has happened since the dispatcher started with a store of users and
repositories. Orders are met one after the other. The code host answers at will, and any call to
the store may fail. -/
inductive Chronicle : Trace → Store → Prop
  | seeded {s : Store} : s.Seeded → Chronicle [] s
  | order {past tr : Trace} {s s' : Store} (o : Order) {res : Except OperationError o.Answer} :
      Chronicle past s → o.operation.Ends s tr res s' → Chronicle (past ++ tr) s'

/-- What is said about a run **is consistent**. -/
structure Run.Reported (r : Run) (past : Trace) (s : Store) : Prop where
  /-- All notifications have the same address, which is that of its task: the credential of the
  owner of the repository, its name, and the commit that the submission tests. -/
  address : ∃ a, s.Addresses r.task a ∧ ∀ n ∈ past.about r.id, n.address = a
  /-- All of them show its name, with a link to its log, and the state of their stage. -/
  shown : ∀ n ∈ past.about r.id, ∀ site : PublicAddress,
    (n.report.status site).context = r.name ∧
      (n.report.status site).targetUrl = site.logPage r.id ∧
      (n.report.status site).state = n.report.stage.state
  /-- They say that it is pending, that it starts, and how it ends, in this order. -/
  order : InOrder (past.stages r.id) (past.endings r.id)
  /-- Its status is the one that it got when it ended. -/
  status : Settles (past.endings r.id) r.status

/-- A run whose trail agrees with the store is **consistently reported**. -/
theorem Run.Entered.reported {r : Run} {past : Trace} {s : Store} (h : r.Entered past s)
    (whole : s.Integrity) : r.Reported past s where
  address := by
    obtain ⟨started, ended, stages, -⟩ := h.order
    cases about : past.about r.id with
    | nil =>
        rw [Trace.stages, about] at stages
        cases stages
    | cons first rest =>
        have address := h.address
        rw [about] at address
        obtain ⟨known, -⟩ := List.forall_mem_cons.mp address
        exact ⟨first.address, known, fun n mem => (address n mem).unique known whole⟩
  shown n mem site := by
    obtain ⟨context, url⟩ := Report.status_subject (h.subject n mem) site
    exact ⟨context, url, n.report.status_state site⟩
  order := h.order
  status := h.status

namespace Store

/-- Before the first order there are **no runs**. -/
theorem Seeded.noRuns {s : Store} (h : s.Seeded) : s.runs = [] := by
  induction h with
  | empty => rfl
  | @user s now username token _ ih =>
      have left : (StoreCall.createUser username token).LeavesWork := trivial
      exact (left.run_eq now s).2.1.trans ih
  | @repository s now new _ ih =>
      have left : (StoreCall.createRepository new).LeavesWork := trivial
      exact (left.run_eq now s).2.1.trans ih

end Store

namespace Chronicle

variable {past : Trace} {s : Store}

/-- The ledger is **always up to date**. -/
theorem ledger (h : Chronicle past s) : s.Ledger past := by
  induction h with
  | seeded seeded => exact .start seeded.holds.1 seeded.noRuns
  | order o _ ends ih => exact (o.keeps _ _ ih _ _ _ ends).1

/-- A run that **has been created** is still there. -/
theorem created (h : Chronicle past s) {new : NewRun} {r : Run}
    (mem : Event.store (.createRun new) (.ok r) ∈ past) : ∃ r' ∈ s.runs, r'.SameWork r := by
  induction h with
  | seeded => cases mem
  | order o before ends ih =>
      rcases List.mem_append.mp mem with earlier | now
      · obtain ⟨q, known, same⟩ := ih earlier
        obtain ⟨q', known', same'⟩ := (ends.later before.ledger.whole).runs q known
        exact ⟨q', known', same'.trans same⟩
      · exact Program.Ends.created ends before.ledger.whole now

/-- Whatever is ordered, and whatever fails, every run that has been created is there, and **what
is said about it is consistent**. -/
theorem reports_consistent (h : Chronicle past s) :
    (∀ new r, Event.store (.createRun new) (.ok r) ∈ past → ∃ r' ∈ s.runs, r'.SameWork r) ∧
      ∀ r ∈ s.runs, r.Reported past s := by
  refine ⟨fun new r mem => h.created mem, fun r known => ?_⟩
  exact (h.ledger.entries r known).reported h.ledger.whole

/-- After a commit has been submitted and its run has been claimed and has succeeded, what is said
about the run is consistent. -/
theorem reports_consistent_sample : ∃ past s, Chronicle past s ∧
    s.runs.map (·.status) = [some true] ∧
    (∀ new r, Event.store (.createRun new) (.ok r) ∈ past → ∃ r' ∈ s.runs, r'.SameWork r) ∧
      ∀ r ∈ s.runs, r.Reported past s := by
  have start : Chronicle [] Sample.session.store :=
    .seeded (.repository _ _ (.user _ _ _ .empty))
  obtain ⟨_, σ₁, submitted, rest⟩ := Session.exists_of_succeeds
    (Order.demand (.submit 5 (Sample.request Sample.first))).operation Sample.session
    (fun _ σ => Session.succeeds (Order.demand (.next "" "bob")).operation σ fun item σ =>
      Session.succeeds (Order.demand (.setStatus item.run.id true "done")).operation σ fun _ σ =>
        σ.store.runs.map (·.status) = [some true]) (by decide +kernel)
  obtain ⟨item, σ₂, claimed, rest⟩ := Session.exists_of_succeeds _ _ _ rest
  obtain ⟨_, σ₃, finished, status⟩ := Session.exists_of_succeeds _ _ _ rest
  obtain ⟨tr₁, ends₁, -⟩ := Session.perform_ends submitted
  obtain ⟨tr₂, ends₂, -⟩ := Session.perform_ends claimed
  obtain ⟨tr₃, ends₃, -⟩ := Session.perform_ends finished
  have chronicle := ((start.order _ ends₁).order _ ends₂).order _ ends₃
  exact ⟨_, σ₃.store, chronicle, of_decide_eq_true status, chronicle.reports_consistent⟩

end Chronicle

end Dispatch
