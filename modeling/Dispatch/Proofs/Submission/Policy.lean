import Dispatch.Proofs.BestEffort
import Dispatch.Proofs.Submission.Footing

/-!
# Policy comes from the main branch of the parent

Whoever proposes a change decides on its files, its declarations and what they depend on, but not on
the policy: of all configurations only the one in the main branch of the parent is ever read, so the
contents of any other make no difference, and no run gets privileges unless that one allows them.

## Main definitions

* `Store.Grants`: new runs have privileges only if these are allowed.
* `Surroundings.policy`: where the policy for a request is read.
* `Environment.AgreesBut`: environments that differ in the contents of other configurations only.
* `Environment.AllowsPrivileges`: the policy exists and allows privileges.

## Main results

* `Intake.submitFrom_grants`: privileges are allowed by the policy that was read.
* `Intake.submit_run_eq`: the contents of other configurations make no difference.
* `Environment.submit_policy`: both, for a submission that is taken in by a service.
-/

namespace Dispatch

/-! ### Granting privileges -/

/-- Between two stores, runs with **privileges** have been added only if these are allowed. -/
def Store.Grants (allowed : Prop) (s s' : Store) : Prop :=
  ∀ r ∈ s'.runs, (∃ q ∈ s.runs, r.SameWork q) ∨ (r.settings.privileged = true → allowed)

namespace Store.Grants

variable {allowed allowed' : Prop} {s s' s'' : Store}

theorem of_runs (same : s'.runs = s.runs) : s.Grants allowed s' := fun r mem =>
  .inl ⟨r, same ▸ mem, .refl r⟩

theorem trans (h : s.Grants allowed s') (h' : s'.Grants allowed s'') : s.Grants allowed s'' := by
  intro r mem
  rcases h' r mem with ⟨q, known, same⟩ | granted
  · rcases h q known with ⟨p, known', same'⟩ | granted
    · exact .inl ⟨p, known', same.trans same'⟩
    · exact .inr fun privileged => granted (same.settings ▸ privileged)
  · exact .inr granted

theorem mono (h : s.Grants allowed s') (weaker : allowed → allowed') : s.Grants allowed' s' :=
  fun r mem => (h r mem).imp_right fun granted privileged => weaker (granted privileged)

end Store.Grants

/-- A call that creates a run with **privileges** only if these are allowed. -/
def StoreCall.Grants (allowed : Prop) : StoreCall → Prop
  | createRun new => new.settings.privileged = true → allowed
  | _ => True

theorem StoreCall.AddsNoWork.grants {call : StoreCall} (h : call.AddsNoWork) (allowed : Prop) :
    call.Grants allowed := by
  cases call <;> trivial

theorem StoreCall.Grants.run {allowed : Prop} {call : StoreCall} (h : call.Grants allowed)
    (now : Timestamp) {s : Store} (whole : s.Integrity) : s.Grants allowed (call.run now s).2 := by
  by_cases quiet : call.AddsNoWork
  · obtain ⟨-, run, -, same, -, runs⟩ := (call.run_step whole quiet now).sameWork
    intro r mem
    obtain ⟨q, known, rfl⟩ := List.mem_map.mp (runs ▸ mem)
    exact .inl ⟨q, known, same q⟩
  · cases call with
    | createTask new =>
        rcases Store.createTask_cases now new s with ⟨-, e, run⟩ | ⟨-, run⟩
        · rw [StoreCall.run, run]
          exact .of_runs rfl
        · rw [StoreCall.run, run]
          exact .of_runs rfl
    | createRun new =>
        rcases Store.createRun_cases now new s with ⟨-, e, run⟩ | ⟨-, run⟩
        · rw [StoreCall.run, run]
          exact .of_runs rfl
        · rw [StoreCall.run, run]
          intro r mem
          rcases List.mem_append.mp mem with known | added
          · exact .inl ⟨r, known, .refl r⟩
          · obtain rfl := List.mem_singleton.mp added
            exact .inr h
    | enqueue batch =>
        rcases Store.enqueue_cases batch s with ⟨-, e, run⟩ | ⟨-, _, run, -⟩
        · rw [StoreCall.run, run]
          exact .of_runs rfl
        · rw [StoreCall.run, run]
          exact .of_runs rfl
    | _ => exact absurd trivial quiet

/-- An operation **grants** what its calls grant. -/
theorem Operation.Ends.grants {α : Type} {allowed : Prop} {Q : HostCall → Prop} {op : Operation α}
    {s s' : Store} {tr : Trace} {res : Except OperationError α} (h : op.Ends s tr res s')
    (calls : op.Calls (StoreCall.Grants allowed) Q) (whole : s.Integrity) :
    s.Grants allowed s' :=
  (Program.Ends.keeps (I := fun s' => s'.Integrity ∧ s.Grants allowed s')
    (fun call grants now _ holds =>
      ⟨call.run_integrity holds.1 now, holds.2.trans (grants.run now holds.1)⟩)
    h calls ⟨whole, .of_runs rfl⟩).2

namespace Picking

open Operation

variable {r : Resolved} {allowed : Prop} {s s' : Store} {tr : Trace}

/-- Recording the task of a directory grants what **its declaration** asks for. -/
theorem grants_createTask (submission : Submission) (dir : String) {settings : TaskSettings}
    (declared : ∀ run ∈ settings.runs.values, run.privileged = true → allowed) :
    Calls (StoreCall.Grants allowed) (fun _ => False) (createTask r submission dir settings) := by
  refine calls_bind (calls_stage (calls_store trivial)) fun task => ?_
  refine calls_bind (calls_mapM_mem fun run mem => ?_) fun _ => calls_pure _
  refine calls_bind (calls_stage ?_) fun run => calls_bind (calls_notify _) fun _ => calls_pure _
  exact calls_bind (asks_ofDomain _).calls fun _ => calls_store (declared run mem)

/-- Filling a submission grants what the **configuration** allows. -/
theorem fill_grants {limit : Nat} {selected : Directories} {submission : Submission}
    {res : Except OperationError Picked}
    (h : (fill limit r selected submission).Ends s tr res s') (whole : s.Integrity) :
    s.Grants (r.config.allowPrivileged = true) s' := by
  rcases ends_bind.mp h with ⟨e, lifted, -⟩ | ⟨one, s₁, tr₁, tr₂, lifted, rest, rfl⟩
  · exact absurd lifted not_ends_lift_error
  · have loads := ends_lift_ok.mp lifted
    obtain rfl := load_store loads
    cases one with
    | error failure =>
        obtain ⟨rfl, -⟩ := refuse_ends rest
        exact .of_runs rfl
    | ok loaded =>
        have declared : ∀ x ∈ loaded.entries, ∀ run ∈ x.2.runs.values, run.privileged = true →
            r.config.allowPrivileged = true := by
          intro x mem
          obtain ⟨bytes, -, parsed⟩ :=
            ((load_ok loads).1 x.1 x.2).mp (Dictionary.get?_eq_some.mpr mem)
          exact TaskDeclaration.parse_privileged parsed
        refine rest.grants (Q := fun _ => False) (calls_bind ?_ fun _ => calls_pure _) whole
        exact calls_mapM_mem fun x mem => grants_createTask submission x.1 (declared x mem)

theorem pick_grants {limit : Nat} {res : Except OperationError Picked}
    (h : (pick limit r).Ends s tr res s') (whole : s.Integrity) :
    s.Grants (r.config.allowPrivileged = true) s' := by
  rw [pick_eq] at h
  rcases ends_bind.mp h with ⟨e, chosen, -⟩ | ⟨selected, s₁, tr₁, tr₂, chosen, rest, rfl⟩
  · rw [chosen.store_eq (asks_choose r).calls]
    exact .of_runs rfl
  · obtain rfl := chosen.store_eq (asks_choose r).calls
    have recording {res : Except OperationError Submission} {tr : Trace} {s₂ : Store}
        (recorded : Ends (stage "recording submission" (store (.createSubmission (record r)))) s₁ tr
          res s₂) : s₁.Grants (r.config.allowPrivileged = true) s₂ :=
      recorded.grants (Q := fun _ => False) (calls_stage (calls_store trivial)) whole
    rcases ends_bind.mp rest with ⟨e, recorded, -⟩ | ⟨x, s₂, tr₃, tr₄, recorded, last, rfl⟩
    · exact recording recorded
    · exact (recording recorded).trans (fill_grants last (recorded.integrity whole))

end Picking

namespace Resolution

open Operation

variable {s s' : Store} {tr : Trace}

/-- In the course of what happened, the code host gave **a policy that allows privileges**. -/
def PolicyAllows (token : String) (parent : Repository) (mainBranch : String) (tr : Trace) : Prop :=
  ∃ bytes config,
    .host token (.getFile parent.name ("refs/" ++ mainBranch) RepoConfig.fileName)
      (.ok bytes) ∈ tr ∧
      RepoConfig.parse (Text.ofBytes bytes) = .ok config ∧ config.allowPrivileged = true

theorem PolicyAllows.mono {token : String} {parent : Repository} {mainBranch : String} {tr' : Trace}
    (h : PolicyAllows token parent mainBranch tr) (more : tr ⊆ tr') :
    PolicyAllows token parent mainBranch tr' := by
  obtain ⟨bytes, config, given, rest⟩ := h
  exact ⟨bytes, config, more given, rest⟩

/-- A configuration that allows privileges **was given** by the code host; the default one does
not. -/
theorem configuration_allows {token mainBranch : String} {parent : Repository} {c : RepoConfig}
    (h : (configuration token parent.name mainBranch).Ends s tr (.ok c) s')
    (allows : c.allowPrivileged = true) : PolicyAllows token parent mainBranch tr := by
  obtain ⟨reply, s₁, tr₁, tr₂, asked, last, rfl⟩ := ends_bind_ok.mp h
  obtain ⟨reply', rfl, eq, rfl⟩ := ends_tryHost.mp asked
  cases eq
  cases reply with
  | ok bytes =>
      obtain ⟨-, parsed, -⟩ := ends_ofConfig_ok.mp last
      exact ⟨bytes, c, List.mem_cons_self, parsed, allows⟩
  | error e =>
      dsimp only at last
      split at last
      · obtain ⟨-, eq, -⟩ := ends_pure.mp last
        cases eq
        cases allows
      · obtain ⟨-, impossible, -⟩ := ends_fail.mp last
        cases impossible

/-- What has been resolved allows privileges only if **the policy** does. -/
theorem resolveFrom_allows {f : Footing} {mainBranch : String} {r : Resolved}
    (h : (resolveFrom f mainBranch).Ends s tr (.ok r) s')
    (allows : r.config.allowPrivileged = true) :
    PolicyAllows f.token f.parent mainBranch tr := by
  obtain ⟨p, s₁, tr₁, _, supposed, rest, rfl⟩ := ends_bind_ok.mp h
  obtain ⟨parent, token, main⟩ := supposed.yields (yields_premisesFrom f mainBranch)
  obtain ⟨found, s₂, _, tr₃, concluded, settled, rfl⟩ := ends_bind_ok.mp rest
  obtain rfl : r = found.1 := settled.yields (yields_settle found)
  obtain ⟨head, s₃, tr₄, _, -, rest₁, rfl⟩ := ends_bind_ok.mp concluded
  obtain ⟨base, s₄, tr₅, _, -, rest₂, rfl⟩ := ends_bind_ok.mp rest₁
  obtain ⟨config, s₅, tr₆, tr₇, configured, last, rfl⟩ := ends_bind_ok.mp rest₂
  obtain ⟨-, eq, -⟩ := ends_pure.mp last
  cases eq
  rw [← parent, ← token, ← main]
  exact (configuration_allows (ends_stage_ok.mp configured) allows).mono fun ev mem => by simp [mem]

end Resolution

namespace Intake

open Operation Resolution

variable {limit : Nat} {s s' : Store} {tr : Trace}

/-- Starting what has been resolved grants what **its configuration** allows. -/
theorem start_grants {r : Resolved} {res : Except OperationError Submitted}
    (h : (start limit r).Ends s tr res s') (whole : s.Integrity) :
    s.Grants (r.config.allowPrivileged = true) s' := by
  rw [start_eq] at h
  rcases ends_bind.mp h with ⟨e, staged, -⟩ | ⟨picked, s₁, tr₁, tr₂, staged, lined, rfl⟩
  · obtain ⟨cause, picking, -⟩ := ends_stage_error.mp staged
    exact Picking.pick_grants picking whole
  · have picking := ends_stage_ok.mp staged
    have others (call : StoreCall) (h : call.AddsNoWork) :=
      h.grants (r.config.allowPrivileged = true)
    exact (Picking.pick_grants picking whole).trans
      (lined.grants (calls_lineUp picked others trivial (Q := fun _ => True))
        (picking.integrity whole))

/-- From the footing on, runs get **privileges** only if the policy that was read allows them. -/
theorem submitFrom_grants {f : Footing} {mainBranch : String}
    {res : Except OperationError Submitted}
    (h : (submitFrom limit f mainBranch).Ends s tr res s') (whole : s.Integrity) :
    s.Grants (PolicyAllows f.token f.parent mainBranch tr) s' := by
  have resolving {res : Except OperationError Resolved} {tr : Trace} {s₁ : Store}
      (staged : Ends (stage "processing submission" (resolveFrom f mainBranch)) s tr res s₁) :
      s.Grants (PolicyAllows f.token f.parent mainBranch tr) s₁ := by
    have calls := (makes_resolveFrom f mainBranch).calls (R := Anything) fun _ _ _ => trivial
    exact staged.grants (calls_stage (calls.mono (fun _ adds => adds.grants _) fun _ => id)) whole
  rcases ends_bind.mp h with ⟨e, staged, -⟩ | ⟨r, s₁, tr₁, tr₂, staged, rest, rfl⟩
  · exact resolving staged
  · obtain ⟨tr₃, started, -⟩ := launch_ends rest
    have allowing := fun allows => (resolveFrom_allows (ends_stage_ok.mp staged) allows).mono
      (List.subset_append_left tr₁ tr₂)
    have granted := (start_grants started (staged.integrity whole)).mono allowing
    exact ((resolving staged).mono fun given =>
      given.mono (List.subset_append_left tr₁ tr₂)).trans granted

end Intake

/-! ### Other configurations -/

namespace Resolution

open Operation

/-- Putting a request **where it stands**: on its footing, with the main branch of its parent. -/
def standing (request : SubmissionRequest) : Operation (Footing × String) := do
  let f ← footing request
  let main ← reportedMain f
  return (f, main)

/-- Until a request stands, things are looked up at most, and **no configuration** is read. -/
theorem makes_standing (request : SubmissionRequest) :
    Makes StoreCall.IsLookup (fun _ call => ¬ call.ReadsPolicy) NoNotice (standing request) :=
  makes_bind (makes_footing (fun _ => id) request fun _ _ => id) fun f =>
    makes_bind (makes_reportedMain f id) fun _ => makes_pure _

/-- A request stands on a repository that is **enabled**, and on the main branch that the code host
reports for it. -/
theorem standing_ok {request : SubmissionRequest} {s s' : Store} {tr : Trace} {f : Footing}
    {mainBranch : String} (h : (standing request).Ends s tr (.ok (f, mainBranch)) s') :
    (f.parent ∈ s'.repositories ∧ f.parent.disabled = false) ∧
      ∃ hosted, .host f.token (.getRepository f.parent.name) (.ok hosted) ∈ tr ∧
        mainBranch = Git.mainBranch (hosted.defaultBranch.or f.parent.defaultBranch) := by
  obtain ⟨f', s₁, _, _, onFooting, rest, rfl⟩ := ends_bind_ok.mp h
  obtain ⟨main, s₂, _, _, reported, last, rfl⟩ := ends_bind_ok.mp rest
  obtain ⟨-, eq, same⟩ := ends_pure.mp last
  obtain ⟨rfl, rfl⟩ : f = f' ∧ mainBranch = main := by simpa using eq
  obtain ⟨hosted, s₂', _, _, asked, named, rfl⟩ := ends_bind_ok.mp reported
  obtain ⟨rfl, same'⟩ := ends_host_ok.mp (ends_stage_ok.mp asked)
  obtain ⟨-, main, same''⟩ := ends_pure.mp named
  obtain ⟨opened, s₃, _, _, -, rest, -⟩ := ends_bind_ok.mp onFooting
  obtain ⟨parent, s₄, _, _, enabling, rest, -⟩ := ends_bind_ok.mp rest
  obtain ⟨token, s₅, _, _, owning, last, -⟩ := ends_bind_ok.mp rest
  obtain ⟨-, eq, same₄⟩ := ends_pure.mp last
  obtain rfl : f = ⟨opened.2, opened.1, parent, token⟩ := by simpa using eq
  obtain ⟨same₃, -⟩ := ownerToken_ok (ends_stage_ok.mp owning)
  obtain ⟨⟨known, -⟩, enabled⟩ := enabledParent_ok (ends_stage_ok.mp enabling)
  rw [same, same'', same', same₄, same₃]
  exact ⟨⟨known, enabled⟩, hosted, by simp, by simpa using main⟩

end Resolution

/-- Where the policy for a request **is read** in these surroundings: in the main branch of its
parent, as far as both can be found out. -/
def Surroundings.policy {σ : Type} (w : Surroundings σ) (request : SubmissionRequest) (a : σ) :
    Option HostCall :=
  match Program.run w (Resolution.standing request).run a with
  | some (.ok (f, main), _) => some (Resolution.policyCall f.parent main)
  | _ => none

namespace Intake

open Operation Resolution

variable {limit : Nat} {request : SubmissionRequest}

theorem submit_standing (limit : Nat) (request : SubmissionRequest) :
    submit limit request = stage "processing submission" (standing request) >>= fun x =>
      submitFrom limit x.1 x.2 := by
  rw [submit_eq, standing]
  simp only [stage_bind, bind_assoc]
  rfl

/-- The **contents of other configurations** make no difference to a submission. -/
theorem submit_run_eq {σ : Type} {w w' : Surroundings σ} {a : σ}
    (alike : w.Alike (fun _ call => call.ReadsPolicy → w.policy request a = some call) w')
    (limit : Nat) :
    Program.run w' (submit limit request).run a = Program.run w (submit limit request).run a := by
  have quiet : w.Alike (fun _ call => ¬ call.ReadsPolicy) w' :=
    alike.mono fun token call other reads => absurd reads other
  have standsAlike := (makes_standing request).run_eq quiet a
  rw [submit_standing, Operation.run_bind, Operation.run_bind, run_stage, run_stage, ← standsAlike]
  rcases stands : Program.run w (standing request).run a with _ | ⟨e | ⟨f, main⟩, b⟩
  · rfl
  · rfl
  · have policy : w.policy request a = some (policyCall f.parent main) := by
      rw [Surroundings.policy, stands]
    have faithful : w.Alike (Faithful f main) w' := alike.mono fun token call own reads =>
      policy.trans (congrArg some (own.2 reads).symm)
    exact ((makes_submitFrom limit f main).run_eq faithful b).symm

end Intake

/-! ### In a service -/

namespace Environment

open Operation Resolution Intake

variable {η : Type} {env env' : Environment η} {c : Circumstances} {limit : Nat}
  {request : SubmissionRequest} {σ σ' : Service η}

/-- Environments that agree in everything **but the contents of configurations** elsewhere than
where the policy is read. -/
structure AgreesBut (env : Environment η) (policy : Option HostCall) (env' : Environment η) :
    Prop where
  store : env.store = env'.store
  address : env.address = env'.address
  host : ∀ token call, (call.ReadsPolicy → policy = some call) →
    env.host token call = env'.host token call

theorem AgreesBut.alike {policy : Option HostCall} (h : env.AgreesBut policy env')
    (c : Circumstances) : (env.surroundings c).Alike
      (fun _ call => call.ReadsPolicy → policy = some call) (env'.surroundings c) where
  store := by
    funext call σ
    simp only [surroundings, answerStore, h.store, h.address]
  notify := by
    funext n σ
    simp only [surroundings, h.address]
  host token call kind := by
    funext σ
    simp only [surroundings, answerHost, h.host token call kind, h.address]

/-- The code host **gives** an answer, at some time. -/
def Gives (env : Environment η) (token : String) (call : HostCall) (reply : call.Reply) : Prop :=
  ∃ outside, (env.host token call outside).1 = .ok reply

/-- The policy is the configuration in the main branch of an enabled parent, as the code host
reports that branch; the code host gives it, and **it allows privileges**. -/
def AllowsPrivileges (env : Environment η) (s : Store) (policy : Option HostCall) : Prop :=
  ∃ parent ∈ s.repositories, parent.disabled = false ∧ ∃ token hosted,
    env.Gives token (.getRepository parent.name) hosted ∧ ∃ mainBranch,
      mainBranch = Git.mainBranch (hosted.defaultBranch.or parent.defaultBranch) ∧
      policy = some (policyCall parent mainBranch) ∧ ∃ bytes config,
        env.Gives token (policyCall parent mainBranch) bytes ∧
        RepoConfig.parse (Text.ofBytes bytes) = .ok config ∧ config.allowPrivileged = true

/-- A run that a submission **creates with privileges** is allowed to have them by the policy. -/
theorem submit_allowed {res : Except OperationError Submitted} (whole : σ.core.store.Integrity)
    (h : Program.run (env.surroundings c) (submit limit request).run σ = some (res, σ')) {r : Run}
    (mem : r ∈ σ'.core.store.runs) (new : ∀ q ∈ σ.core.store.runs, q.id ≠ r.id)
    (privileged : r.settings.privileged = true) :
    env.AllowsPrivileges σ.core.store ((env.surroundings c).policy request σ) := by
  have looks {x : Except OperationError (Footing × String)} {τ : Service η}
      (stands : Program.run (env.surroundings c) (standing request).run σ = some (x, τ)) :
      τ.core.store = σ.core.store := by
    obtain ⟨tr, ends, -⟩ := env.run_ends stands
    exact Program.Ends.store_eq ends
      ((makes_standing request).calls (R := fun _ => True) fun _ _ _ => trivial)
  rw [submit_standing, Operation.run_bind, run_stage] at h
  rcases stands : Program.run (env.surroundings c) (standing request).run σ with
    _ | ⟨e | ⟨f, main⟩, τ⟩
  · rw [stands] at h
    cases h
  · rw [stands] at h
    obtain ⟨-, rfl⟩ := Prod.mk.inj (Option.some.inj h)
    exact absurd rfl (new r (looks stands ▸ mem))
  · rw [stands] at h
    have same := looks stands
    obtain ⟨tr, ends, answers⟩ := env.run_ends stands
    obtain ⟨⟨known, enabled⟩, hosted, reported, branch⟩ := standing_ok ends
    rw [same] at known
    obtain ⟨tr', ends', answers'⟩ := env.run_ends (p := (submitFrom limit f main).run) h
    rcases submitFrom_grants ends' (same ▸ whole) r mem with ⟨q, old, work⟩ | allowed
    · exact absurd work.id.symm (new q (same ▸ old))
    · obtain ⟨bytes, config, given, parsed, allows⟩ := allowed privileged
      refine ⟨f.parent, known, enabled, f.token, hosted, answers _ _ _ reported trivial, main,
        branch, ?_, bytes, config, answers' _ _ _ given trivial, parsed, allows⟩
      rw [Surroundings.policy, stands]

end Environment

namespace Sample

/-- A task whose run is privileged. -/
def privileged : String :=
  "mountpoint \"/src\"\ndefault-image \"rust:1\"\nrun \"test\" \x7b\n  command \"cargo\"\n  " ++
    "privileged #true\n\x7d\n"

/-- A code host on which the main branch allows privileges. -/
def allowing : HostScript :=
  { host with
    files := [("*", "refs/heads/main", "ferry.kdl", Text.encodeUtf8 "allow-privileged #true\n"),
      ("*", "*", "task.kdl", Text.encodeUtf8 privileged)] }

/-- The same code host, with another configuration in the commit that is submitted. -/
def forged : (call : HostCall) → Except HostError call.Reply
  | .getFile repository revision path =>
    if revision = first ∧ path = "ferry.kdl" then .ok (Text.encodeUtf8 "allow-privileged #false\n")
    else allowing.lookUp (.getFile repository revision path)
  | call => allowing.lookUp call

/-- An environment in which no call to the store fails. -/
def environment (host : (call : HostCall) → Except HostError call.Reply) : Environment Unit where
  store _ _ := (.ok (.startOfYear 0), ())
  host _ call _ := (host call, ())
  address := ⟨""⟩

/-- A worker that is never there. -/
def idle : Circumstances where
  buffer := 0
  turn _ := .leave
  failure _ := none

/-- A service with a repository and its owner. -/
def service : Service Unit := .start idle store ()

/-- The two code hosts differ in a configuration that is not **the policy**. -/
theorem forged_agrees (parent : Repository) (mainBranch : String) :
    (environment allowing.lookUp).AgreesBut (some (Resolution.policyCall parent mainBranch))
      (environment forged) where
  store := rfl
  address := rfl
  host token call same := by
    cases call with
    | getFile repository revision path =>
        have other : ¬ (revision = first ∧ path = "ferry.kdl") := by
          rintro ⟨rfl, rfl⟩
          have place := same (by decide +kernel : Selection.fileName _ = _)
          have branch : "refs/" ++ mainBranch = first := (HostCall.getFile.inj
            (Option.some.inj place)).2.1
          have beginning := congrArg (·.toList.head?) branch
          rw [String.toList_append] at beginning
          cases beginning
        funext u
        exact congrArg (·, u) (if_neg other).symm
    | _ => rfl

end Sample

namespace Environment

open Operation Resolution Intake

variable {η : Type}

/-- **Policy comes from the main branch of the parent.** Of all configurations, only the contents of
the one in the main branch of the parent make a difference to a submission: in any environment that
agrees but for others, it comes to the same answer, leaves the same store and makes the same calls.
And if it creates a run with privileges, then this configuration exists and allows them. -/
theorem submit_policy (env : Environment η) (c : Circumstances) (limit : Nat)
    (request : SubmissionRequest) (σ : Service η)
    (reachable : σ.core.store.ReachableBy fun _ => True) :
    (∀ env', env.AgreesBut ((env.surroundings c).policy request σ) env' →
      Program.run (env'.surroundings c) (submit limit request).run σ =
        Program.run (env.surroundings c) (submit limit request).run σ) ∧
    ∀ res σ', Program.run (env.surroundings c) (submit limit request).run σ = some (res, σ') →
      ∀ r ∈ σ'.core.store.runs, (∀ q ∈ σ.core.store.runs, q.id ≠ r.id) →
        r.settings.privileged = true →
        env.AllowsPrivileges σ.core.store ((env.surroundings c).policy request σ) :=
  ⟨fun _ agrees => submit_run_eq (agrees.alike c) limit, fun _ _ run _ mem new privileged =>
    submit_allowed reachable.integrity run mem new privileged⟩

/-- The main branch allows privileges, and a submission whose own configuration denies them gets
them. -/
theorem submit_policy_sample : ∃ (result : Submitted) (σ' : Service Unit) (r : Run),
    Program.run ((Sample.environment Sample.allowing.lookUp).surroundings Sample.idle)
      (submit 5 (Sample.request Sample.first)).run Sample.service = some (.ok result, σ') ∧
    Program.run ((Sample.environment Sample.forged).surroundings Sample.idle)
      (submit 5 (Sample.request Sample.first)).run Sample.service = some (.ok result, σ') ∧
    r ∈ σ'.core.store.runs ∧ r.settings.privileged = true ∧
    (Sample.environment Sample.allowing.lookUp).AllowsPrivileges Sample.store
      (((Sample.environment Sample.allowing.lookUp).surroundings Sample.idle).policy
        (Sample.request Sample.first) Sample.service) := by
  obtain ⟨indifferent, allowed⟩ := submit_policy (Sample.environment Sample.allowing.lookUp)
    Sample.idle 5 (Sample.request Sample.first) Sample.service (Sample.reachable _)
  have submitted : (Program.run
      ((Sample.environment Sample.allowing.lookUp).surroundings Sample.idle)
      (submit 5 (Sample.request Sample.first)).run Sample.service).any (fun x => x.1.isOk &&
        x.2.core.store.runs.any (·.settings.privileged)) = true := by decide +kernel
  rcases run : Program.run ((Sample.environment Sample.allowing.lookUp).surroundings Sample.idle)
    (submit 5 (Sample.request Sample.first)).run Sample.service with _ | ⟨e | result, σ'⟩
  · rw [run] at submitted
    cases submitted
  · rw [run] at submitted
    cases submitted
  · rw [run] at submitted
    obtain ⟨r, mem, privileged⟩ := List.any_eq_true.mp submitted
    have allows := allowed _ σ' run r mem (List.forall_mem_nil _) privileged
    have agrees : (Sample.environment Sample.allowing.lookUp).AgreesBut
        (((Sample.environment Sample.allowing.lookUp).surroundings Sample.idle).policy
          (Sample.request Sample.first) Sample.service) (Sample.environment Sample.forged) := by
      obtain ⟨parent, -, -, -, -, -, main, -, read, -⟩ := allows
      rw [read]
      exact Sample.forged_agrees parent main
    exact ⟨result, σ', r, rfl, (indifferent _ agrees).trans run, mem, privileged, allows⟩

end Environment

end Dispatch
