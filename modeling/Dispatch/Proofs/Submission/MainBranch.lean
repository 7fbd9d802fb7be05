import Dispatch.Proofs.Submission.Creation
import Dispatch.Proofs.Submission.Supersession

/-!
# Work for the main branch

What was merged into the main branch is tested in full, and no later submission cancels that. Both
are decided by the name of the head's ref, and a commit has one ref only: it keeps the name under
which it was first recorded, which is the first of those that the code host gave it then. So they
hold of a commit that goes by the name of the main branch. One that has been seen on another branch
before, or to which another branch points whose name comes first, is taken for work on that branch.

## Main definitions

* `Repository.CommitGoesBy`: the name that a commit has.
* `Trace.Reports`: the main branch that the code host reports.
* `Intake.TestsAll`: every directory that declares a task has one.
* `Intake.Spares`: later submissions leave the unfinished tasks of a submission alone.

## Main results

* `Intake.submit_spares`: what a submission leaves alone.
* `Intake.submit_mainBranch`: a submission for the main branch tests everything and is spared.
* `Intake.mainBranch_mistaken`: not so if another branch points to the commit as well.
-/

namespace Dispatch

/-! ### Names and reports -/

/-- A commit **goes by** a name: the store has recorded it under this name if at all, and where the
code host lists what names it, this name comes first. -/
structure Repository.CommitGoesBy (p : Repository) (sha name : String) (s : Store) (tr : Trace) :
    Prop where
  recorded : ∀ ref, s.refFor? p.id sha = some ref → ref.name = name
  listed : ∀ token names, .host token (.getRefs p.name sha) (.ok names) ∈ tr →
    Resolution.firstOr sha names = name

/-- Wherever the code host describes the repository, it **reports** this main branch. -/
def Trace.Reports (tr : Trace) (p : Repository) (main : String) : Prop :=
  ∀ token hosted, .host token (.getRepository p.name) (.ok hosted) ∈ tr →
    Git.mainBranch (hosted.defaultBranch.or p.defaultBranch) = main

/-- A request **proposes** what is in a repository to another one. -/
structure SubmissionRequest.Proposes (request : SubmissionRequest) (repository : String) :
    Prop where
  hook : request.manual = false
  fork : request.fork = repository
  parent : request.parent ≠ repository

/-- The head has the name that its commit goes by. -/
theorem Resolution.NamesHead.name_eq {r : Resolved} {s : Store} {tr : Trace} {name : String}
    (h : NamesHead r s tr) (known : r.fork.CommitGoesBy r.head.sha name s tr) :
    r.head.name = name := by
  rcases h with recorded | ⟨names, asked, first⟩
  · exact known.recorded _ recorded
  · rw [first]
    exact known.listed _ _ asked

namespace Intake

open Operation Picking

variable {r : Resolved} {s s' : Store} {tr : Trace} {limit : Nat} {request : SubmissionRequest}

/-! ### Testing everything -/

/-- The submission has a **task for every directory** for which the head commit declares one. -/
def TestsAll (r : Resolved) (tr : Trace) (submission : Id) (s : Store) : Prop :=
  ∃ files, .host r.token (.listFiles r.fork.name r.head.sha) (.ok files) ∈ tr ∧
    ∀ dir, Selection.DeclaresTask r.config files dir →
      ∃ t ∈ s.tasks, t.submission = submission ∧ t.path = dir

theorem TestsAll.append {tr' : Trace} {submission : Id} (h : TestsAll r tr submission s) :
    TestsAll r (tr ++ tr') submission s := by
  obtain ⟨files, listed, tested⟩ := h
  exact ⟨files, List.mem_append_left _ listed, tested⟩

/-- A full run **tests everything**. -/
theorem start_testsAll {result : Submitted} (h : (start limit r).Ends s tr (.ok result) s')
    (faultless : tr.Faultless) (whole : s.Integrity) (full : r.isFullRun = true) :
    TestsAll r tr result.submission.id s' := by
  have ticket : r.ticket = r.request.pullRequest := rfl
  obtain ⟨selected, loaded, ts, rs, selects, -, needed, creates⟩ :=
    start_creates h faultless whole ticket
  obtain ⟨files, tasks, listed, declares, ⟨-, all⟩ | ⟨part, -⟩⟩ := selects
  · refine ⟨files, listed, fun dir declared => ?_⟩
    have loads : dir ∈ loaded.keys := by
      refine (needed dir).mpr (.start ?_)
      rw [all]
      exact (declares dir).mpr declared
    obtain ⟨entry, known, rfl⟩ := List.mem_map.mp loads
    obtain ⟨t, added, recorded⟩ := creates.tasks.flip.exists_of_mem_right known
    obtain ⟨old, grown, -⟩ := creates.addedTasks
    refine ⟨t, ?_, recorded.submission, recorded.path⟩
    rw [grown]
    exact List.mem_append_right _ added
  · rw [full] at part
    cases part

/-! ### What a submission leaves alone -/

/-- As long as the code host reports the same main branch of a repository, this is the main branch
of the fork in every submission from it, unless the change is proposed to another repository and
the main branch was another one when the repository was registered. -/
theorem forkMainBranch_eq {p : Repository} {main : String}
    (grounds : r.premises.RestOn request s tr s') (faultless : tr.Faultless) (own : r.fork = p)
    (known : s.repositoryNamed p.name = .ok p) (enabled : p.disabled = false)
    (reports : tr.Reports p main) (registered : request.Proposes p.name → p.mainBranch = main) :
    r.forkMainBranch = main := by
  have fork : r.request.fork = request.fork := congrArg (·.fork) grounds.completed
  have forkName : r.fork.name = r.request.fork := grounds.fork.2
  have parentName : r.parent.name = r.request.parent := grounds.parent.2
  rw [Resolved.forkMainBranch]
  by_cases same : r.request.fork = r.parent.name
  · rw [if_pos same]
    have parent : r.fork = r.parent := grounds.own same
    obtain ⟨hosted, said, eq⟩ := grounds.mainBranch
    change r.mainBranch = Git.mainBranch (hosted.defaultBranch.or r.parent.defaultBranch) at eq
    change Event.host r.token (.getRepository r.parent.name) (.ok hosted) ∈ tr at said
    rw [← parent, own] at eq said
    rw [eq]
    exact reports _ _ said
  · rw [if_neg same, own]
    have forkIs : request.fork = p.name := by rw [← fork, ← forkName, own]
    have hook : request.manual = false := by
      cases manual : request.manual with
      | false => rfl
      | true =>
          -- Made by hand, the request would be against the fork itself.
          have alone : r.request.parent = request.fork :=
            grounds.manual faultless manual p (forkIs ▸ known) enabled
          exact absurd (by rw [parentName, alone, fork]) same
    refine registered ⟨hook, forkIs, fun parent => same ?_⟩
    have given : r.request.parent = request.parent := grounds.hook hook
    rw [fork, forkIs, parentName, given, parent]

/-- What a submission **leaves alone**: as long as the code host reports the same main branch of a
repository, every task for this branch. -/
theorem submit_spares {res : Except OperationError Submitted} {p : Repository} {main : String}
    (reachable : s.ReachableBy fun _ => True) (h : (submit limit request).Ends s tr res s')
    (faultless : tr.Faultless) (known : p ∈ s.repositories) (enabled : p.disabled = false)
    (reports : tr.Reports p main) (registered : request.Proposes p.name → p.mainBranch = main)
    {t : Task} (mem : t ∈ s.tasks) (tests : s.Tests p.id main t.submission) : t ∈ s'.tasks := by
  have whole := reachable.integrity
  rcases submit_ends h with ⟨cause, failed, -⟩ | ⟨r, s₂, tr₁, tr₂, tr₃, resolved, started, rfl, -⟩
  · rw [(Resolution.resolve_error failed).tasks]
    exact mem
  · simp only [Trace.faultless_append] at faultless
    have whole₂ := resolved.integrity whole
    obtain ⟨s₁, resolves⟩ := resolve_faultless resolved faultless.1 whole
    obtain ⟨new, receives⟩ :=
      start_receives started faultless.2.1 whole₂ resolves.found.parent
    obtain ⟨ts, tasks, -⟩ := receives.tasks
    rw [tasks]
    refine List.mem_append_left _ ?_
    have there : t ∈ s₁.tasks := resolves.registered.tasks ▸ mem
    refine resolves.cancels.tasks_of_notMem there fun canceled => ?_
    by_cases spared : r.head.name = r.forkMainBranch
    · rw [if_pos spared] at canceled
      cases canceled
    · rw [if_neg spared] at canceled
      obtain ⟨-, ref, tested, repository, name⟩ := (Store.mem_openForRef resolves.whole
        (resolves.coherent reachable.coherent).unset there).mp canceled
      obtain ⟨ref', tested', repository', name'⟩ := (whole.tests_iff resolves.whole
        (resolves.registered.submissions ▸ List.prefix_rfl) resolves.registered.refs
        (whole.taskSubmission t mem)).mpr tests
      obtain rfl : ref = ref' := Option.some.inj (tested.symm.trans tested')
      have still : p ∈ s₂.repositories := (resolved.grows whole).repositories.subset known
      have own : r.fork = p := Store.eq_of_key whole₂.repositories.nodup resolves.found.fork still
        (repository.symm.trans repository')
      have reports' : tr₁.Reports p main := fun token hosted said =>
        reports token hosted (List.mem_append_left _ said)
      refine spared ?_
      rw [← name, name', forkMainBranch_eq (Resolution.resolve_grounds resolved whole).1
        faultless.1 own (Resolution.repositoryNamed_of_mem whole known) enabled reports' registered]

/-! ### Submissions for the main branch -/

/-- Later submissions **spare** the unfinished tasks of a submission, as long as the code host
reports the same main branch of its repository. -/
def Spares (r : Resolved) (submission : Id) (s : Store) : Prop :=
  ∀ s₁ s₂ tr limit request res, s.LeadsTo s₁ → (submit limit request).Ends s₁ tr res s₂ →
    tr.Faultless → tr.Reports r.parent r.mainBranch →
    (request.Proposes r.parent.name → r.parent.mainBranch = r.mainBranch) →
    ∀ t ∈ s₁.tasks, t.submission = submission → t.isFinished = false → t ∈ s₂.tasks

/-- What is for the main branch of the parent is **spared**. -/
theorem spares_of_tests {x : StoredSubmission} (reachable : s.ReachableBy fun _ => True)
    (parent : r.parent ∈ s.repositories) (enabled : r.parent.disabled = false)
    (known : x ∈ s.submissions) (tests : s.Tests r.parent.id r.mainBranch x.id) :
    Spares r x.id s := by
  intro s₁ s₂ tr limit request res later submitted faultless reports registered t mem own _
  have whole := reachable.integrity
  obtain ⟨whole₁, grows⟩ := later.grows whole
  refine submit_spares (later.reachable reachable) submitted faultless
    (grows.repositories.subset parent) enabled reports registered mem ?_
  rw [own]
  exact (whole.tests_iff whole₁ grows.submissions grows.refs (List.mem_map_of_mem known)).mpr tests

/-- **A submission for the main branch** of a repository that is its own fork tests everything if
it succeeds, and later submissions spare it. It is for the main branch if its head commit goes by
the name of that branch, whichever revision the request names. -/
theorem submit_mainBranch {res : Except OperationError Submitted}
    (reachable : s.ReachableBy fun _ => True) (h : (submit limit request).Ends s tr res s')
    (faultless : tr.Faultless) :
    (∃ cause, (Resolution.resolve request).Ends s tr (.error cause) s' ∧
      res = .error (cause.inStage "processing submission")) ∨
    ∃ r s₂ tr₁ tr₂ new, (Resolution.resolve request).Ends s tr₁ (.ok r) s₂ ∧ tr = tr₁ ++ tr₂ ∧
      r.premises.RestOn request s tr₁ s₂ ∧
      s'.submissions = s.submissions ++ Option.toList new ∧
      (r.request.fork = r.parent.name → r.parent.CommitGoesBy r.head.sha r.mainBranch s tr₁ →
        (∀ result, res = .ok result → TestsAll r tr₂ result.submission.id s') ∧
        ∀ x ∈ new, Spares r x.id s') := by
  have whole := reachable.integrity
  have whole' := h.integrity whole
  rcases submit_ends h with failed | ⟨r, s₂, tr₁, tr₂, tr₃, resolved, started, rfl, -⟩
  · exact .inl failed
  · simp only [Trace.faultless_append] at faultless
    have whole₂ := resolved.integrity whole
    obtain ⟨s₁, resolves⟩ := resolve_faultless resolved faultless.1 whole
    obtain ⟨grounds, named⟩ := Resolution.resolve_grounds resolved whole
    obtain ⟨new, receives⟩ :=
      start_receives started faultless.2.1 whole₂ resolves.found.parent
    obtain ⟨-, -, -, submissions, -⟩ := resolves.cancels.others
    have added : s'.submissions = s.submissions ++ new.toList := by
      rw [receives.submissions, submissions, resolves.registered.submissions]
    refine .inr ⟨r, s₂, tr₁, tr₂ ++ tr₃, new, resolved, rfl, grounds, added,
      fun self goesBy => ?_⟩
    have own : r.fork = r.parent := grounds.own self
    have name : r.head.name = r.mainBranch := named.name_eq (own ▸ goesBy)
    constructor
    · rintro result rfl
      have full : r.isFullRun = true := by simp [Resolved.isFullRun, own, name]
      exact (start_testsAll started faultless.2.1 whole₂ full).append
    · intro x mem
      have known : x ∈ s'.submissions := by
        rw [added]
        exact List.mem_append_right _ (Option.mem_toList.mpr mem)
      have head : r.head ∈ s'.refs := receives.refs ▸ resolves.found.head
      have tested := whole'.testedRef?_eq_some known head (receives.tested x mem).symm
      have repository : r.head.repository = r.parent.id := by
        rw [resolves.found.headRepository, own]
      refine spares_of_tests (.demand (.submit limit request) reachable h trivial) ?_
        grounds.enabled known ⟨r.head, tested, repository, name⟩
      exact (started.grows whole₂).repositories.subset resolves.found.parent

end Intake

/-! ### Two branches -/

namespace Sample

/-- A code host with a commit on the main branch that declares a task in the root and one in a
directory, and with the given names for this commit. -/
def branchHost (names : List String) : HostScript where
  repositories := host.repositories
  shas := [("ada/tool", "heads/main", first)]
  refs := [("*", base, ["heads/main"]), ("*", first, names), ("*", second, ["heads/feature"])]
  files := [("*", "*", "task.kdl", Text.encodeUtf8 declaration),
    ("*", "*", "lib/task.kdl", Text.encodeUtf8 declaration)]
  trees := []
  diffs := []
  faults := []

/-- A session with it, in which nothing is to fail. -/
def branches (names : List String) : Session := { Session.new (branchHost names) 10 [] with store }

/-- The code host answers what the script says. -/
def Scripted (names : List String) (tr : Trace) : Prop :=
  ∀ token call reply, .host token call reply ∈ tr → reply = (branchHost names).lookUp call

variable {names : List String} {r : Resolved} {tr : Trace} {s' : Store}

/-- The request to test the main branch is **resolved** to what the script says. -/
theorem resolve_main (h : (Resolution.resolve (request "main")).Ends store tr (.ok r) s')
    (scripted : Scripted names tr) : r.request.fork = r.parent.name ∧ r.parent.name = "ada/tool" ∧
      r.request.head = r.mainBranch ∧ r.mainBranch = "heads/main" ∧ r.head.sha = first := by
  have whole : store.Integrity := (reachable fun _ => True).integrity
  obtain ⟨grounds, -⟩ := Resolution.resolve_grounds h whole
  have fork : r.request.fork = "ada/tool" := congrArg (·.fork) grounds.completed
  have parent : r.parent.name = "ada/tool" := grounds.parent.2.trans (grounds.hook rfl)
  have forkName : r.fork.name = "ada/tool" := grounds.fork.2.trans fork
  have head : r.request.head = "heads/main" := by
    have qualified : SubmissionRequest.qualified "main" = .ok r.request.head := grounds.head
    exact Except.ok.inj (qualified.symm.trans rfl)
  have main : r.mainBranch = "heads/main" := by
    obtain ⟨hosted, said, main⟩ := grounds.mainBranch
    have described : .ok hosted = (branchHost names).lookUp (.getRepository r.parent.name) :=
      scripted _ _ _ said
    rw [parent] at described
    obtain rfl := Except.ok.inj described
    exact main
  have sha : r.head.sha = first := by
    rcases grounds.headSha with ⟨hash, -⟩ | asked
    · change Git.isHash r.request.head = true at hash
      rw [head] at hash
      exact absurd hash (by decide +kernel)
    · have answered : .ok r.head.sha = (branchHost names).lookUp
          (.getSha r.fork.name r.request.head) := scripted _ _ _ asked
      rw [forkName, head] at answered
      exact Except.ok.inj answered
  exact ⟨fork.trans parent.symm, parent, head.trans main.symm, main, sha⟩

/-- If the script gives the commit no other name, it goes by that of the main branch. -/
theorem goesBy_main {p : Repository} (name : p.name = "ada/tool")
    (scripted : Scripted ["heads/main"] tr) :
    p.CommitGoesBy first "heads/main" store tr := by
  constructor
  · intro ref recorded
    cases recorded
  · intro token names asked
    have listed : .ok names = (branchHost ["heads/main"]).lookUp (.getRefs p.name first) :=
      scripted _ _ _ asked
    rw [name] at listed
    obtain rfl : names = ["heads/main"] := Except.ok.inj listed
    simp [Resolution.firstOr]

theorem reports_main {p : Repository} (name : p.name = "ada/tool") (scripted : Scripted names tr) :
    tr.Reports p "heads/main" := by
  intro token hosted said
  have described : .ok hosted = (branchHost names).lookUp (.getRepository p.name) :=
    scripted _ _ _ said
  rw [name] at described
  obtain rfl := Except.ok.inj described
  rfl

end Sample

namespace Intake

/-- A push to the main branch tests both directories, and a push to another branch spares that. -/
theorem submit_mainBranch_sample : ∃ (r : Resolved) (result : Submitted) (tr : Trace)
    (s s' : Store), r.request.fork = r.parent.name ∧ r.request.head = r.mainBranch ∧
      TestsAll r tr result.submission.id s ∧ s.tasks.map (·.path) = [".", "lib"] ∧
      (∀ t ∈ s.tasks, t.isFinished = false ∧ t ∈ s'.tasks) ∧ s'.tasks.length = 3 := by
  obtain ⟨result, σ, pushed, facts⟩ := Session.exists_of_succeeds
    (submit 5 (Sample.request "main")) (Sample.branches ["heads/main"])
    (fun result σ => σ.store.submissions.map (·.id) = [result.submission.id] &&
      σ.store.tasks.map (·.path) = [".", "lib"] &&
      σ.store.tasks.all (fun t => t.submission = result.submission.id && !t.isFinished) &&
      Session.succeeds (submit 5 (Sample.request Sample.second)) σ fun _ σ' =>
        σ'.store.tasks.length = 3) (by decide +kernel)
  simp only [Bool.and_eq_true, decide_eq_true_eq, List.all_eq_true, Bool.not_eq_true'] at facts
  obtain ⟨⟨⟨ids, paths⟩, own⟩, rest⟩ := facts
  obtain ⟨other, σ', pushed', three⟩ := Session.exists_of_succeeds _ _ _ rest
  obtain ⟨tr, ends, faultless, scripted⟩ := Session.run_scripted pushed
  obtain ⟨silent, faultless⟩ := faultless rfl
  obtain ⟨sameHost, scripted⟩ := scripted rfl
  obtain ⟨tr', ends', faultless', scripted'⟩ := Session.run_scripted pushed'
  rw [sameHost] at scripted'
  rcases submit_mainBranch (Sample.reachable _) ends faultless with
    ⟨cause, -, impossible⟩ | ⟨r, s₂, tr₁, tr₂, new, resolved, rfl, -, added, main⟩
  · cases impossible
  · have before : Sample.Scripted ["heads/main"] tr₁ := fun token call reply mem =>
      scripted token call reply (List.mem_append_left _ mem)
    obtain ⟨self, parent, head, branch, sha⟩ := Sample.resolve_main resolved before
    have goesBy := Sample.goesBy_main parent before
    rw [← sha, ← branch] at goesBy
    obtain ⟨tests, spares⟩ := main self goesBy
    have reports := Sample.reports_main parent (scripted' rfl).2
    rw [← branch] at reports
    obtain ⟨x, mem, same⟩ : ∃ x ∈ new, x.id = result.submission.id := by
      rw [added] at ids
      cases new with
      | none => cases ids
      | some x => exact ⟨x, rfl, List.head_eq_of_cons_eq ids⟩
    refine ⟨r, result, tr₂, σ.store, σ'.store, self, head, tests result rfl, paths, ?_,
      of_decide_eq_true three⟩
    intro t known
    obtain ⟨ownTask, unfinished⟩ := own t known
    refine ⟨unfinished, spares x mem _ _ _ _ _ _ .now ends' (faultless' silent).2 reports
      (fun proposed => absurd parent.symm proposed.parent) t known ?_ unfinished⟩
    rw [ownTask, same]

/-- Not so for a commit that was seen on another branch first, before that branch was merged without
a commit of its own. **The push to the main branch** leaves the task in the directory out, and what
it tests does not survive the next push to the other branch. -/
theorem mainBranch_mistaken : ∃ (first main second : Submitted) (σ₁ σ₂ σ₃ : Session),
    Session.perform (submit 5 (Sample.request Sample.first)) (Sample.branches ["heads/feature"]) =
      some (.ok first, σ₁) ∧
    Session.perform (submit 5 (Sample.request "main")) σ₁ = some (.ok main, σ₂) ∧
    Selection.DeclaresTask .default (σ₁.host.paths "ada/tool" Sample.first) "lib" ∧
    (∀ t ∈ σ₂.store.tasks, t.path ≠ "lib") ∧
    Session.perform (submit 5 (Sample.request Sample.second)) σ₂ = some (.ok second, σ₃) ∧
    ∃ t ∈ σ₂.store.tasks, t.submission = main.submission.id ∧ t.isFinished = false ∧
      t ∉ σ₃.store.tasks := by
  obtain ⟨first, σ₁, pushed₁, facts⟩ := Session.exists_of_succeeds
    (submit 5 (Sample.request Sample.first)) (Sample.branches ["heads/feature"])
    (fun _ σ₁ => Session.succeeds (submit 5 (Sample.request "main")) σ₁ fun main σ₂ =>
      σ₂.store.tasks.all (fun t => t.path ≠ "lib") &&
      Session.succeeds (submit 5 (Sample.request Sample.second)) σ₂ fun _ σ₃ =>
        σ₂.store.tasks.any fun t => t.submission = main.submission.id && !t.isFinished &&
          σ₃.store.tasks.all fun t' => t'.id ≠ t.id || t'.canceled ≠ t.canceled)
    (by decide +kernel)
  obtain ⟨main, σ₂, pushed₂, facts⟩ := Session.exists_of_succeeds _ _ _ facts
  obtain ⟨narrow, facts⟩ := Bool.and_eq_true_iff.mp facts
  obtain ⟨second, σ₃, pushed₃, facts⟩ := Session.exists_of_succeeds _ _ _ facts
  obtain ⟨t, known, facts⟩ := List.any_eq_true.mp facts
  obtain ⟨facts, lost⟩ := Bool.and_eq_true_iff.mp facts
  obtain ⟨own, unfinished⟩ := Bool.and_eq_true_iff.mp facts
  obtain ⟨tr, -, -, scripted⟩ := Session.run_scripted pushed₁
  refine ⟨first, main, second, σ₁, σ₂, σ₃, pushed₁, pushed₂, ?_, ?_, pushed₃, t, known,
    of_decide_eq_true own, by simpa using unfinished, fun still => ?_⟩
  · rw [(scripted rfl).1]
    exact ⟨"lib/task.kdl", by decide +kernel, by decide +kernel, by decide +kernel,
      by decide +kernel⟩
  · exact fun t mem => of_decide_eq_true (List.all_eq_true.mp narrow t mem)
  · simpa using List.all_eq_true.mp lost t still

end Intake

end Dispatch
