import Dispatch.Proofs.Conduct
import Dispatch.Proofs.Declaration
import Dispatch.Proofs.Store.Step
import Dispatch.Proofs.Submission.Validation

/-!
# The premises of a submission

Before any ref is looked up, it is found out which repositories and commits a request is about. All
that this does to the store is that a repository may be registered. The parent decides: its owner
acts, and its main branch is the one that the code host reports, or else the one it was registered
with. The main branch of another fork is always the one that the fork was registered with.

## Main definitions

* `Store.Registered`: what looking into a request does to the store.
* `Resolution.Premises`: what a request is about.
* `Resolution.Premises.RestOn`: the grounds for it.

## Main results

* `Operation.Ends.registered`: an operation that at most registers does no more to the store.
* `Resolution.premises_ok`: the grounds for the premises of a request.
* `Resolution.premises_owner`: the credential is that of the parent's owner.
-/

namespace Dispatch

/-- A call to the code host that asks about **a repository or a commit**, not about files. -/
def HostCall.Describes : HostCall → Prop
  | getRepository _ | getSha _ _ | getRefs _ _ => True
  | _ => False

/-- A call to the code host that asks about **one repository or commit** by itself. -/
def HostCall.Identifies : HostCall → Prop
  | getRepository _ | getSha _ _ => True
  | _ => False

theorem HostCall.Identifies.describes {call : HostCall} (h : call.Identifies) :
    call.Describes := by
  cases call <;> trivial

theorem HostCall.Describes.isEssential {call : HostCall} (h : call.Describes) :
    call.IsEssential := by
  cases call <;> trivial

/-! ### Registering -/

namespace StoreCall

/-- A call that at most **registers** a repository or a ref. -/
def Registers : StoreCall → Prop
  | createRepository _ | findOrCreateRef _ _ _ => True
  | call => call.IsLookup

/-- A call that at most registers a **repository**. -/
def RegistersRepository : StoreCall → Prop
  | createRepository _ => True
  | call => call.IsLookup

theorem IsLookup.registersRepository {call : StoreCall} (h : call.IsLookup) :
    call.RegistersRepository := by
  cases call <;> first | exact h | trivial

theorem Registers.addsNoWork {call : StoreCall} (h : call.Registers) : call.AddsNoWork := by
  cases call <;> trivial

theorem RegistersRepository.registers {call : StoreCall} (h : call.RegistersRepository) :
    call.Registers := by
  cases call <;> first | exact h | trivial

theorem IsLookup.registers {call : StoreCall} (h : call.IsLookup) : call.Registers :=
  h.registersRepository.registers

theorem RegistersRepository.refs_eq {call : StoreCall} (h : call.RegistersRepository)
    (now : Timestamp) (s : Store) : (call.run now s).2.refs = s.refs := by
  cases call with
  | createRepository new =>
      rcases Store.createRepository_cases now new s with ⟨e, run⟩ | ⟨-, -, run⟩
      · rw [StoreCall.run, run]
      · rw [StoreCall.run, run]
  | createUser | findOrCreateRef | createSubmission | createTask | cancelTask | createRun
  | finishRun | enqueue | dequeue => exact h.elim
  | _ => rfl

end StoreCall

/-- Between two stores, at most repositories and refs have been **registered**. -/
structure Store.Registered (s s' : Store) : Prop where
  users : s'.users = s.users
  repositories : s.repositories <+: s'.repositories
  refs : s.refs <+: s'.refs
  submissions : s'.submissions = s.submissions
  tasks : s'.tasks = s.tasks
  runs : s'.runs = s.runs
  queue : s'.queue = s.queue
  nextPosition : s'.nextPosition = s.nextPosition

namespace Store.Registered

variable {s s' s'' : Store}

theorem refl (s : Store) : s.Registered s :=
  ⟨rfl, List.prefix_rfl, List.prefix_rfl, rfl, rfl, rfl, rfl, rfl⟩

theorem trans (h : s.Registered s') (h' : s'.Registered s'') : s.Registered s'' where
  users := h'.users.trans h.users
  repositories := h.repositories.trans h'.repositories
  refs := h.refs.trans h'.refs
  submissions := h'.submissions.trans h.submissions
  tasks := h'.tasks.trans h.tasks
  runs := h'.runs.trans h.runs
  queue := h'.queue.trans h.queue
  nextPosition := h'.nextPosition.trans h.nextPosition

end Store.Registered

theorem StoreCall.Registers.run {call : StoreCall} (h : call.Registers) (now : Timestamp)
    (s : Store) : s.Registered (call.run now s).2 := by
  cases call with
  | createRepository new =>
      rcases Store.createRepository_cases now new s with ⟨e, run⟩ | ⟨-, -, run⟩
      · rw [StoreCall.run, run]
        exact .refl s
      · rw [StoreCall.run, run]
        exact ⟨rfl, List.prefix_append _ _, List.prefix_rfl, rfl, rfl, rfl, rfl, rfl⟩
  | findOrCreateRef repository name sha =>
      rcases Store.findOrCreateRef_cases repository name sha s with
        ⟨e, run⟩ | ⟨_, -, run⟩ | ⟨-, -, -, run⟩
      · rw [StoreCall.run, run]
        exact .refl s
      · rw [StoreCall.run, run]
        exact .refl s
      · rw [StoreCall.run, run]
        exact ⟨rfl, List.prefix_rfl, List.prefix_append _ _, rfl, rfl, rfl, rfl, rfl⟩
  | createUser | createSubmission | createTask | cancelTask | createRun | finishRun | enqueue
  | dequeue => exact h.elim
  | _ => exact .refl s

namespace Operation

variable {α : Type} {op : Operation α} {s s' : Store} {tr : Trace}
  {res : Except OperationError α} {Q : HostCall → Prop}

/-- An operation that at most registers does no more to the store. -/
theorem Ends.registered (h : op.Ends s tr res s') (calls : op.Calls StoreCall.Registers Q) :
    s.Registered s' :=
  Program.Ends.within .refl (fun _ _ _ => .trans) (fun _ registers now s => registers.run now s)
    h calls

/-- One that at most registers a repository leaves the refs as they are. -/
theorem Ends.registeredRepository (h : op.Ends s tr res s')
    (calls : op.Calls StoreCall.RegistersRepository Q) :
    s.Registered s' ∧ s'.refs = s.refs :=
  ⟨h.registered (Program.Calls.mono (fun _ one => one.registers) (fun _ => id) calls),
    Program.Ends.within (R := fun s s' => s'.refs = s.refs) (fun _ => rfl)
      (fun _ _ _ first second => second.trans first) (fun _ one now s => one.refs_eq now s) h
      calls⟩

end Operation

namespace Resolution

open Operation

/-! ### Looking into a request -/

/-- The fork with its main branch; the parent may be its own fork. -/
def forkOf (request : SubmissionRequest) (token : String) (parent : Repository)
    (mainBranch : String) : Operation (Repository × String) :=
  if request.fork = parent.name then pure (parent, mainBranch)
  else do
    let fork ← stage "configuring repositories"
      (stage "obtaining fork repository" (forkRepository token parent request.fork))
    pure (fork, fork.mainBranch)

/-- The **premises** of a submission: who wants what tested against what. -/
structure Premises where
  request : SubmissionRequest
  submitter : Option User
  parent : Repository
  fork : Repository
  token : String
  mainBranch : String
  forkMainBranch : String
  headSha : String
  /-- The commit to compare with. -/
  baseSha : String

/-- Finds out the **premises** of a request. -/
def premises (r : SubmissionRequest) : Operation Premises := do
  let request ← stage "validating submission" (ofDomain r.validated)
  let (submitter, request) ← submitter request
  let parent ← stage "configuring repositories" (enabledParent request.parent)
  let token ← stage "obtaining owner client" (ownerToken parent)
  let hosted ← stage "reading parent repository from code host"
    (host token (.getRepository parent.name))
  let mainBranch := Git.mainBranch (hosted.defaultBranch.or parent.defaultBranch)
  let (fork, forkMainBranch) ← forkOf request token parent mainBranch
  let headSha ← stage "resolving head" (sha token fork.name request.head)
  let baseSha ← baseSha token parent mainBranch request.base
  let baseSha ← comparedSha parent fork headSha baseSha
  return { request, submitter, parent, fork, token, mainBranch, forkMainBranch, headSha, baseSha }

/-! ### What is called -/

/-- Whatever the code host is asked. -/
abbrev Anything (_ : HostCall) : Prop := True

open StoreCall (RegistersRepository IsLookup)

open HostCall (Describes Identifies IsEssential)

section Makes

variable {P : StoreCall → Prop} {Q : String → HostCall → Prop} {N : Notification → Prop}
  (lookups : ∀ call : StoreCall, call.IsLookup → P call)

include lookups in
/-- For a request made by hand, the code host is asked about the **fork**. -/
theorem makes_manualParent (r : SubmissionRequest)
    (gate : ∀ token, Q token (.getRepository r.fork)) : Makes P Q N (manualParent r) := by
  rw [manualParent]
  split
  · exact makes_fail _
  · refine makes_bind (makes_store (lookups _ trivial)) fun user => ?_
    refine makes_bind (makes_host (gate _)) fun hosted => ?_
    refine makes_bind (makes_ifFound (lookups _ trivial)) fun known => ?_
    cases known with
    | none => exact makes_pure _
    | some known => exact makes_pure _

include lookups in
theorem makes_submitter (r : SubmissionRequest)
    (gate : ∀ token, Q token (.getRepository r.fork)) : Makes P Q N (submitter r) := by
  rw [submitter]
  split
  · exact makes_bind (makes_stage (makes_manualParent lookups r gate)) fun _ => makes_pure _
  · split
    · exact makes_bind (makes_stage (makes_ifFound (lookups _ trivial))) fun _ => makes_pure _
    · exact makes_pure _

include lookups in
theorem makes_enabledParent (name : String) : Makes P Q N (enabledParent name) := by
  refine makes_bind (makes_stage (makes_store (lookups _ trivial))) fun parent => ?_
  split
  · exact makes_bind (makes_fail _) fun _ => makes_pure _
  · exact makes_pure _

include lookups in
theorem makes_ownerToken (r : Repository) : Makes P Q N (ownerToken r) := by
  rw [ownerToken]
  split
  · exact makes_fail _
  · exact makes_bind (makes_store (lookups _ trivial)) fun _ => makes_pure _

variable {token : String} (identifies : ∀ call : HostCall, call.Identifies → Q token call)

include lookups identifies in
/-- Only a repository of the **given name** is registered. -/
theorem makes_forkRepository (parent : Repository) (name : String)
    (registers : ∀ new, new.name = name → P (.createRepository new)) :
    Makes P Q N (forkRepository token parent name) := by
  refine makes_bind (makes_ifFound (lookups _ trivial)) fun known => ?_
  cases known with
  | some known => exact makes_pure _
  | none =>
      refine makes_bind (makes_host (identifies _ trivial)) fun hosted => ?_
      refine makes_bind (makes_tryStore (registers _ rfl)) fun added => ?_
      split
      · exact makes_pure _
      · exact makes_store (lookups _ trivial)
      · exact makes_fail _

include lookups identifies in
theorem makes_forkOf (request : SubmissionRequest) (parent : Repository) (mainBranch : String)
    (registers : ∀ new, new.name = request.fork → P (.createRepository new)) :
    Makes P Q N (forkOf request token parent mainBranch) := by
  rw [forkOf]
  split
  · exact makes_pure _
  · have obtained := makes_forkRepository lookups identifies parent request.fork registers (N := N)
    exact makes_bind (makes_stage (makes_stage obtained)) fun _ => makes_pure _

include identifies in
theorem makes_sha (repository revision : String) : Makes P Q N (sha token repository revision) := by
  rw [sha]
  split
  · exact makes_pure _
  · exact makes_host (identifies _ trivial)

include identifies in
theorem makes_baseSha (parent : Repository) (mainBranch base : String) :
    Makes P Q N (baseSha token parent mainBranch base) := by
  rw [baseSha]
  split
  · exact makes_stage (makes_host (identifies _ trivial))
  · exact makes_stage (makes_sha identifies _ _)

theorem makes_comparedSha (parent fork : Repository) (head base : String) :
    Makes P Q N (comparedSha parent fork head base) := by
  rw [comparedSha]
  split
  · split
    · exact makes_stage (makes_fail _)
    · exact makes_pure _
  · exact makes_pure _

end Makes

theorem asks_submitter (r : SubmissionRequest) :
    Asks RegistersRepository IsEssential (submitter r) :=
  (makes_submitter (fun _ => IsLookup.registersRepository) r
    (Q := fun _ => Describes) fun _ => trivial).asks fun _ _ => Describes.isEssential

theorem asks_enabledParent (name : String) :
    Asks RegistersRepository IsEssential (enabledParent name) :=
  (makes_enabledParent (fun _ => IsLookup.registersRepository) name
    (Q := fun _ => Describes)).asks fun _ _ => Describes.isEssential

theorem asks_ownerToken (r : Repository) :
    Asks RegistersRepository IsEssential (ownerToken r) :=
  (makes_ownerToken (fun _ => IsLookup.registersRepository) r
    (Q := fun _ => Describes)).asks fun _ _ => Describes.isEssential

theorem asks_forkOf (request : SubmissionRequest) (token : String) (parent : Repository)
    (mainBranch : String) :
    Asks RegistersRepository IsEssential (forkOf request token parent mainBranch) :=
  (makes_forkOf (fun _ => IsLookup.registersRepository) (Q := fun _ => Describes)
    (fun _ => Identifies.describes) request parent mainBranch fun _ _ => trivial).asks
    fun _ _ => Describes.isEssential

theorem asks_sha (token repository revision : String) :
    Asks RegistersRepository IsEssential (sha token repository revision) :=
  (makes_sha (Q := fun _ => Describes) (fun _ => Identifies.describes) repository revision).asks
    fun _ _ => Describes.isEssential

theorem asks_baseSha (token : String) (parent : Repository) (mainBranch base : String) :
    Asks RegistersRepository IsEssential (baseSha token parent mainBranch base) :=
  (makes_baseSha (Q := fun _ => Describes) (fun _ => Identifies.describes) parent mainBranch
    base).asks fun _ _ => Describes.isEssential

theorem asks_comparedSha (parent fork : Repository) (head base : String) :
    Asks RegistersRepository IsEssential (comparedSha parent fork head base) :=
  (makes_comparedSha (Q := fun _ => Describes) parent fork head base).asks fun _ _ =>
    Describes.isEssential

theorem asks_premises (r : SubmissionRequest) :
    Asks RegistersRepository IsEssential (premises r) := by
  refine asks_bind (asks_stage (asks_ofDomain _)) fun request => ?_
  refine asks_bind (asks_submitter _) fun known => ?_
  refine asks_bind (asks_stage (asks_enabledParent _)) fun parent => ?_
  refine asks_bind (asks_stage (asks_ownerToken _)) fun token => ?_
  refine asks_bind (asks_stage (asks_host trivial)) fun hosted => ?_
  refine asks_bind (asks_forkOf _ _ _ _) fun fork => ?_
  refine asks_bind (asks_stage (asks_sha _ _ _)) fun headSha => ?_
  refine asks_bind (asks_baseSha _ _ _ _) fun baseSha => ?_
  exact asks_bind (asks_comparedSha _ _ _ _) fun baseSha => asks_pure _

/-! ### What is found out -/

variable {s s' : Store} {tr : Trace}

/-- Validating touches the head and the base only, and gives the head its full name. -/
theorem validated_ok {r r' : SubmissionRequest} (h : r.validated = .ok r') :
    r' = { r with head := r'.head, base := r'.base } ∧
      SubmissionRequest.qualified r.head = .ok r'.head := by
  obtain ⟨-, head, -, same⟩ := SubmissionRequest.validated_eq_ok.mp h
  exact ⟨same, head⟩

/-- What a lookup answers with. -/
theorem ends_lookup_ok {call : StoreCall} {reply : call.Reply}
    (h : Ends (store call) s tr (.ok reply) s') (lookup : call.IsLookup) :
    s' = s ∧ ∃ now, (call.run now s).1 = .ok reply := by
  obtain ⟨now, effect, -⟩ := ends_store_ok.mp h
  have unchanged := lookup.run_eq now s
  rw [effect] at unchanged
  exact ⟨unchanged, now, congrArg Prod.fst effect⟩

/-- What there is to a lookup that may find nothing: the store **answers** with a record or that
there is none, or the call fails as if there were none. -/
theorem ifFound_cases {call : StoreCall} {found : Option call.Reply}
    (h : Ends (ifFound call) s tr (.ok found) s') (lookup : call.IsLookup) :
    s' = s ∧ ((∃ now reply, (call.run now s).1 = .ok reply ∧ tr = [.store call (.ok reply)] ∧
        found = some reply) ∨
      ∃ e : StoreError, e.isNotFound = true ∧ found = none ∧
        ((∃ now, (call.run now s).1 = .error e) ∧ tr = [.store call (.error e)] ∨
          tr = [.fault call e])) := by
  obtain rfl := h.store_eq (Q := Anything) (asks_ifFound lookup).calls
  refine ⟨rfl, ?_⟩
  obtain ⟨answer, s₁, tr₁, tr₂, tried, last, rfl⟩ := ends_bind_ok.mp h
  have nothing_of_error {e : StoreError}
      (ended : Ends (if e.isNotFound then pure none else fail e) s₁ tr₂ (.ok found) s') :
      e.isNotFound = true ∧ found = none ∧ tr₂ = [] := by
    split at ended
    · next missing =>
      obtain ⟨nothing, eq, -⟩ := ends_pure.mp ended
      cases eq
      exact ⟨missing, rfl, nothing⟩
    · obtain ⟨-, impossible, -⟩ := ends_fail.mp ended
      cases impossible
  rcases ends_tryStore.mp tried with ⟨now, reply, effect, eq, rfl⟩ | ⟨e, rfl, eq, rfl⟩
  · cases eq
    have answered : (call.run now s').1 = answer := congrArg Prod.fst effect
    cases answer with
    | ok reply =>
        obtain ⟨rfl, eq, -⟩ := ends_pure.mp last
        cases eq
        exact .inl ⟨now, reply, answered, rfl, rfl⟩
    | error e =>
        obtain ⟨missing, rfl, rfl⟩ := nothing_of_error last
        exact .inr ⟨e, missing, rfl, .inl ⟨⟨now, answered⟩, rfl⟩⟩
  · cases eq
    obtain ⟨missing, rfl, rfl⟩ := nothing_of_error last
    exact .inr ⟨e, missing, rfl, .inr rfl⟩

/-- What is found is **in the store**, and without failures what is there is found. -/
theorem ifFound_ok {call : StoreCall} {found : Option call.Reply}
    (h : Ends (ifFound call) s tr (.ok found) s') (lookup : call.IsLookup) :
    s' = s ∧ (∀ reply, found = some reply → ∃ now, (call.run now s).1 = .ok reply) ∧
      (found = none → tr.Faultless → ∃ now e, (call.run now s).1 = .error e) := by
  obtain ⟨rfl, ⟨now, reply, answered, -, rfl⟩ | ⟨e, -, rfl, ⟨⟨now, answered⟩, -⟩ | rfl⟩⟩ :=
    ifFound_cases h lookup
  · refine ⟨rfl, ?_, by simp⟩
    rintro _ ⟨⟩
    exact ⟨now, answered⟩
  · exact ⟨rfl, by simp, fun _ _ => ⟨now, e, answered⟩⟩
  · exact ⟨rfl, by simp, fun _ faultless => by simp at faultless⟩

/-- The parent of a request that is **not made by hand** is the one that it names. -/
theorem submitter_ok {r r' : SubmissionRequest} {user : Option User}
    (h : (submitter r).Ends s tr (.ok (user, r')) s') :
    r' = { r with parent := r'.parent } ∧ (r.manual = false → r' = r) := by
  rw [submitter] at h
  split at h
  · next manual =>
    obtain ⟨known, s₁, tr₁, tr₂, -, last, rfl⟩ := ends_bind_ok.mp h
    obtain ⟨-, eq, -⟩ := ends_pure.mp last
    cases eq
    refine ⟨rfl, fun hook => ?_⟩
    rw [manual] at hook
    cases hook
  · split at h
    · obtain ⟨known, s₁, tr₁, tr₂, -, last, rfl⟩ := ends_bind_ok.mp h
      obtain ⟨-, eq, -⟩ := ends_pure.mp last
      cases eq
      exact ⟨rfl, fun _ => rfl⟩
    · obtain ⟨-, eq, -⟩ := ends_pure.mp h
      cases eq
      exact ⟨rfl, fun _ => rfl⟩

/-- For a request made by hand, a fork that is enabled **is its own parent**. -/
theorem submitter_manual {r r' : SubmissionRequest} {user : Option User}
    (h : (submitter r).Ends s tr (.ok (user, r')) s') (faultless : tr.Faultless)
    (manual : r.manual = true) {fork : Repository} (known : s.repositoryNamed r.fork = .ok fork)
    (enabled : fork.disabled = false) : r'.parent = r.fork := by
  rw [submitter, if_pos manual] at h
  obtain ⟨⟨u, parent⟩, s₁, tr₁, tr₂, found, last, rfl⟩ := ends_bind_ok.mp h
  obtain ⟨-, eq, -⟩ := ends_pure.mp last
  cases eq
  have found := ends_stage_ok.mp found
  rw [manualParent] at found
  split at found
  · obtain ⟨-, impossible, -⟩ := ends_fail.mp found
    cases impossible
  · obtain ⟨user, s₂, tr₃, _, named, rest₁, rfl⟩ := ends_bind_ok.mp found
    obtain ⟨rfl, -⟩ := ends_lookup_ok named trivial
    obtain ⟨hosted, s₃, tr₄, _, asked, rest₂, rfl⟩ := ends_bind_ok.mp rest₁
    obtain ⟨rfl, rfl⟩ := ends_host_ok.mp asked
    obtain ⟨answer, s₄, tr₅, tr₆, looked, last, rfl⟩ := ends_bind_ok.mp rest₂
    simp only [Trace.faultless_append] at faultless
    obtain ⟨rfl, some, none⟩ := ifFound_ok looked trivial
    cases answer with
    | some fork' =>
        obtain ⟨now, answered⟩ := some fork' rfl
        obtain rfl : fork = fork' := Except.ok.inj (known.symm.trans answered)
        obtain ⟨-, eq, -⟩ := ends_pure.mp last
        rw [enabled] at eq
        cases eq
        rfl
    | none =>
        obtain ⟨now, e, answered⟩ := none rfl faultless.1.2.2.1
        cases known.symm.trans answered

theorem repositoryNamed_ok {name : String} {r : Repository}
    (h : s.repositoryNamed name = .ok r) : r ∈ s.repositories ∧ r.name = name := by
  have found := Store.expect_eq_ok.mp h
  exact ⟨List.mem_of_find?_eq_some found, by simpa using List.find?_some found⟩

/-- A repository is **found by its name**. -/
theorem repositoryNamed_of_mem (whole : s.Integrity) {r : Repository} (known : r ∈ s.repositories) :
    s.repositoryNamed r.name = .ok r :=
  Store.expect_eq_ok.mpr ((Store.find?_key_eq_some whole.repositoryNames).mpr ⟨known, rfl⟩)

/-- The parent is in the store and enabled. -/
theorem enabledParent_ok {name : String} {parent : Repository}
    (h : (enabledParent name).Ends s tr (.ok parent) s') :
    (parent ∈ s'.repositories ∧ parent.name = name) ∧ parent.disabled = false := by
  obtain ⟨found, s₁, tr₁, tr₂, first, last, rfl⟩ := ends_bind_ok.mp h
  obtain ⟨rfl, now, answer⟩ := ends_lookup_ok (ends_stage_ok.mp first) trivial
  split at last
  · obtain ⟨_, _, _, _, failed, -, -⟩ := ends_bind_ok.mp last
    obtain ⟨-, impossible, -⟩ := ends_fail.mp failed
    cases impossible
  · next enabled =>
    obtain ⟨-, eq, rfl⟩ := ends_pure.mp last
    cases eq
    exact ⟨repositoryNamed_ok answer, Bool.eq_false_iff.mpr enabled⟩

/-- The **credential** of a repository's owner, who is in the store. -/
theorem ownerToken_ok {r : Repository} {token : String}
    (h : (ownerToken r).Ends s tr (.ok token) s') :
    s' = s ∧ ∃ owner ∈ s.users, r.owner = some owner.id ∧ token = owner.token := by
  rw [ownerToken] at h
  split at h
  · obtain ⟨-, impossible, -⟩ := ends_fail.mp h
    cases impossible
  · next id owns =>
    obtain ⟨owner, s₁, tr₁, tr₂, first, last, rfl⟩ := ends_bind_ok.mp h
    obtain ⟨rfl, now, answer⟩ := ends_lookup_ok first trivial
    obtain ⟨-, eq, rfl⟩ := ends_pure.mp last
    cases eq
    have found : s'.user? id = some owner := Store.expect_eq_ok.mp answer
    have own : owner.id = id := by simpa using List.find?_some found
    exact ⟨rfl, owner, List.mem_of_find?_eq_some found, by rw [own, owns], rfl⟩

/-- The fork is in the store. -/
theorem forkRepository_ok {token name : String} {parent fork : Repository}
    (h : (forkRepository token parent name).Ends s tr (.ok fork) s') :
    fork ∈ s'.repositories ∧ fork.name = name := by
  obtain ⟨found, s₁, tr₁, tr₂, first, rest, rfl⟩ := ends_bind_ok.mp h
  obtain ⟨rfl, known, -⟩ := ifFound_ok first trivial
  cases found with
  | some found =>
      obtain ⟨-, eq, rfl⟩ := ends_pure.mp rest
      cases eq
      obtain ⟨now, answer⟩ := known fork rfl
      exact repositoryNamed_ok answer
  | none =>
      obtain ⟨hosted, s₂, tr₃, tr₄, -, later, rfl⟩ := ends_bind_ok.mp rest
      obtain ⟨added, s₃, tr₅, tr₆, tried, last, rfl⟩ := ends_bind_ok.mp later
      split at last
      · obtain ⟨-, eq, rfl⟩ := ends_pure.mp last
        cases eq
        rcases ends_tryStore.mp tried with ⟨now, answer, effect, eq, -⟩ | ⟨e, -, impossible, -⟩
        · cases eq
          rcases Store.createRepository_cases now (registration parent name hosted) s₂ with
            ⟨e, failed⟩ | ⟨-, -, added⟩
          · cases failed.symm.trans effect
          · cases added.symm.trans effect
            exact ⟨List.mem_append_right _ (List.mem_singleton_self _), rfl⟩
        · cases impossible
      · obtain ⟨rfl, now, answer⟩ := ends_lookup_ok last trivial
        exact repositoryNamed_ok answer
      · obtain ⟨-, impossible, -⟩ := ends_fail.mp last
        cases impossible

/-- Where the parent is its own fork, the fork is the parent. -/
theorem forkOf_ok {request : SubmissionRequest} {token main m : String} {parent fork : Repository}
    (h : (forkOf request token parent main).Ends s tr (.ok (fork, m)) s')
    (known : parent ∈ s.repositories) : (fork ∈ s'.repositories ∧ fork.name = request.fork) ∧
      (request.fork = parent.name → fork = parent) ∧
      m = if request.fork = parent.name then main else fork.mainBranch := by
  rw [forkOf] at h
  split at h
  · next same =>
    obtain ⟨-, eq, rfl⟩ := ends_pure.mp h
    cases eq
    exact ⟨⟨known, same.symm⟩, fun _ => rfl, (if_pos same).symm⟩
  · next other =>
    obtain ⟨found, s₁, tr₁, tr₂, first, last, rfl⟩ := ends_bind_ok.mp h
    obtain ⟨-, eq, rfl⟩ := ends_pure.mp last
    cases eq
    have obtained := ends_stage_ok.mp (ends_stage_ok.mp first)
    exact ⟨forkRepository_ok obtained, fun same => absurd same other, (if_neg other).symm⟩

/-- A hash names itself, and what any other revision names, the code host says. -/
theorem sha_ok {token repository revision hash : String}
    (h : (sha token repository revision).Ends s tr (.ok hash) s') :
    Git.isHash revision = true ∧ hash = Text.trimmed revision ∨
      .host token (.getSha repository revision) (.ok hash) ∈ tr := by
  rw [sha] at h
  split at h
  · next self =>
    obtain ⟨-, eq, -⟩ := ends_pure.mp h
    cases eq
    exact .inl ⟨self, rfl⟩
  · obtain ⟨rfl, -⟩ := ends_host_ok.mp h
    exact .inr (List.mem_singleton_self _)

/-- What the premises of a request **rest on**: the request itself, what is in the store, and what
the code host said. -/
structure Premises.RestOn (p : Premises) (request : SubmissionRequest) (s : Store) (tr : Trace)
    (s' : Store) : Prop where
  completed : p.request = { request with
    parent := p.request.parent, head := p.request.head, base := p.request.base }
  head : SubmissionRequest.qualified request.head = .ok p.request.head
  /-- A request that is not made by hand names the parent. -/
  hook : request.manual = false → p.request.parent = request.parent
  /-- For one made by hand, a fork that is enabled is its own parent. -/
  manual : tr.Faultless → request.manual = true →
    ∀ fork, s.repositoryNamed request.fork = .ok fork → fork.disabled = false →
      p.request.parent = request.fork
  parent : p.parent ∈ s'.repositories ∧ p.parent.name = p.request.parent
  enabled : p.parent.disabled = false
  fork : p.fork ∈ s'.repositories ∧ p.fork.name = p.request.fork
  own : p.request.fork = p.parent.name → p.fork = p.parent
  mainBranch : ∃ hosted, .host p.token (.getRepository p.parent.name) (.ok hosted) ∈ tr ∧
    p.mainBranch = Git.mainBranch (hosted.defaultBranch.or p.parent.defaultBranch)
  forkMainBranch : p.forkMainBranch =
    if p.request.fork = p.parent.name then p.mainBranch else p.fork.mainBranch
  headSha : Git.isHash p.request.head = true ∧ p.headSha = Text.trimmed p.request.head ∨
    .host p.token (.getSha p.fork.name p.request.head) (.ok p.headSha) ∈ tr

/-- The grounds remain when more happens. -/
theorem Premises.RestOn.mono {p : Premises} {request : SubmissionRequest} {s₁ : Store}
    {tr' : Trace} (h : p.RestOn request s tr s₁) (more : tr ⊆ tr')
    (kept : s₁.repositories ⊆ s'.repositories) : p.RestOn request s tr' s' :=
  { h with
    manual := fun faultless => h.manual fun call e mem => faultless call e (more mem)
    parent := h.parent.imp_left fun mem => kept mem
    fork := h.fork.imp_left fun mem => kept mem
    mainBranch := h.mainBranch.imp fun _ => .imp_left fun mem => more mem
    headSha := h.headSha.imp_right fun mem => more mem }

/-- The **grounds** for the premises of a request. -/
theorem premises_ok {request : SubmissionRequest} {p : Premises}
    (h : (premises request).Ends s tr (.ok p) s') : p.RestOn request s tr s' := by
  obtain ⟨valid, s₁, _, _, first, rest₁, rfl⟩ := ends_bind_ok.mp h
  obtain ⟨rfl, validated, rfl⟩ := ends_ofDomain_ok.mp (ends_stage_ok.mp first)
  obtain ⟨⟨user, whole⟩, s₂, tr₂, _, submitting, rest₂, rfl⟩ := ends_bind_ok.mp rest₁
  obtain ⟨parent, s₃, tr₃, _, enabling, rest₃, rfl⟩ := ends_bind_ok.mp rest₂
  obtain ⟨token, s₄, tr₄, _, owner, rest₄, rfl⟩ := ends_bind_ok.mp rest₃
  obtain ⟨hosted, s₅, _, _, described, rest₅, rfl⟩ := ends_bind_ok.mp rest₄
  obtain ⟨rfl, rfl⟩ := ends_host_ok.mp (ends_stage_ok.mp described)
  obtain ⟨⟨fork, forkMain⟩, s₆, tr₆, _, forked, rest₆, rfl⟩ := ends_bind_ok.mp rest₅
  obtain ⟨headSha, s₇, tr₇, _, headed, rest₇, rfl⟩ := ends_bind_ok.mp rest₆
  obtain ⟨named, s₈, tr₈, _, based, rest₈, rfl⟩ := ends_bind_ok.mp rest₇
  obtain ⟨compared, s₉, tr₉, _, comparing, last, rfl⟩ := ends_bind_ok.mp rest₈
  obtain ⟨-, eq, rfl⟩ := ends_pure.mp last
  cases eq
  obtain ⟨qualified, head⟩ := validated_ok validated
  obtain ⟨filled, given⟩ := submitter_ok submitting
  obtain ⟨known, enabled⟩ := enabledParent_ok (ends_stage_ok.mp enabling)
  have toFork := (owner.registeredRepository (asks_stage (asks_ownerToken parent)).calls).1
  obtain ⟨knownFork, own, main⟩ := forkOf_ok forked (toFork.repositories.subset known.1)
  have toEnd : s₆.Registered s' :=
    ((headed.registeredRepository (asks_stage (asks_sha _ _ _)).calls).1.trans
      (based.registeredRepository (asks_baseSha _ _ _ _).calls).1).trans
        (comparing.registeredRepository (asks_comparedSha _ _ _ _).calls).1
  have fromParent : s₃.Registered s' :=
    (toFork.trans (forked.registeredRepository (asks_forkOf _ _ _ _).calls).1).trans toEnd
  constructor
  case completed => rw [filled, qualified]
  case head =>
    rw [filled]
    exact head
  case hook =>
    intro hook
    rw [qualified] at given
    rw [given hook]
  case manual =>
    intro faultless manual fork knownFork enabled
    simp only [Trace.faultless_append] at faultless
    rw [qualified] at submitting
    have own := submitter_manual submitting faultless.2.1 manual knownFork enabled
    exact own
  case parent => exact ⟨fromParent.repositories.subset known.1, known.2⟩
  case enabled => exact enabled
  case fork => exact ⟨toEnd.repositories.subset knownFork.1, knownFork.2⟩
  case own => exact own
  case mainBranch => exact ⟨hosted, by simp, rfl⟩
  case forkMainBranch => exact main
  case headSha =>
    refine (sha_ok (ends_stage_ok.mp headed)).imp_right fun asked => ?_
    simp [asked]

/-- The credential is that of the **parent's owner**. -/
theorem premises_owner {request : SubmissionRequest} {p : Premises}
    (h : (premises request).Ends s tr (.ok p) s') :
    ∃ owner ∈ s'.users, p.parent.owner = some owner.id ∧ p.token = owner.token := by
  have kept : s'.users = s.users := (h.registeredRepository (asks_premises request).calls).1.users
  obtain ⟨valid, s₁, _, _, first, rest₁, rfl⟩ := ends_bind_ok.mp h
  obtain ⟨rfl, -, rfl⟩ := ends_ofDomain_ok.mp (ends_stage_ok.mp first)
  obtain ⟨⟨user, whole⟩, s₂, tr₂, _, submitting, rest₂, rfl⟩ := ends_bind_ok.mp rest₁
  obtain ⟨parent, s₃, tr₃, _, enabling, rest₃, rfl⟩ := ends_bind_ok.mp rest₂
  obtain ⟨token, s₄, tr₄, _, owner, rest₄, rfl⟩ := ends_bind_ok.mp rest₃
  have users : s₃.users = s₁.users :=
    ((submitting.registeredRepository (asks_submitter _).calls).1.trans
      (enabling.registeredRepository (asks_stage (asks_enabledParent _)).calls).1).users
  obtain ⟨-, grounds⟩ := ownerToken_ok (ends_stage_ok.mp owner)
  rw [users, ← kept] at grounds
  obtain ⟨hosted, s₅, _, _, -, rest₅, rfl⟩ := ends_bind_ok.mp rest₄
  obtain ⟨⟨fork, forkMain⟩, s₆, tr₆, _, -, rest₆, rfl⟩ := ends_bind_ok.mp rest₅
  obtain ⟨headSha, s₇, tr₇, _, -, rest₇, rfl⟩ := ends_bind_ok.mp rest₆
  obtain ⟨named, s₈, tr₈, _, -, rest₈, rfl⟩ := ends_bind_ok.mp rest₇
  obtain ⟨compared, s₉, tr₉, _, -, last, rfl⟩ := ends_bind_ok.mp rest₈
  obtain ⟨-, eq, -⟩ := ends_pure.mp last
  cases eq
  exact grounds

end Resolution

end Dispatch
