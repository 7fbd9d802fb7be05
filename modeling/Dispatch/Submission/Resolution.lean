import Dispatch.Config.Repository
import Dispatch.Submission.Request
import Dispatch.Task.Cancellation
import Dispatch.Text.Utf8
import Dispatch.Queue.Worker

/-!
# Resolving a submission request

Before anything is created, a request is resolved: into the repositories that it names, the
credential that acts for them, the commits, and the configuration of the parent repository, which
alone sets the policy. Work that the new submission makes pointless is canceled.

## Main definitions

* `Resolved`: everything that the later stages need.
* `Resolution.resolve`: resolves a request.
-/

namespace Dispatch

/-- A request with everything that it **resolves** to. -/
structure Resolved where
  request : SubmissionRequest
  parent : Repository
  fork : Repository
  /-- The credential of the parent's owner. -/
  token : String
  base : Ref
  head : Ref
  submitter : Option User
  config : RepoConfig
  /-- The full name of the parent's main branch. -/
  mainBranch : String

namespace Resolved

/-- The number of the pull request, if there is one. -/
def ticket (r : Resolved) : Option Int64 := r.request.pullRequest

/-- Every task directory is selected: on demand, and for what has been merged into the main
branch. -/
def isFullRun (r : Resolved) : Bool :=
  (r.request.all && r.request.manual) ||
    (r.fork.id = r.parent.id && r.head.name = r.mainBranch)

end Resolved

namespace Resolution

open Operation

/-! ### Repositories -/

/-- What the store answers, but nothing where it has no such record. -/
def ifFound (call : StoreCall) : Operation (Option call.Reply) := do
  match ← tryStore call with
  | .ok reply => return some reply
  | .error e => if e.isNotFound then return none else fail e

/-- The submitter of a **manual request** and the repository that it is made against. The fork is
read with the submitter's own credential, so that nobody can start work on a repository that they
cannot see. A fork that is enabled is its own parent; for another one it is the repository that
the fork was made from. -/
def manualParent (r : SubmissionRequest) : Operation (User × String) := do
  match r.submittedBy with
  | none => fail (DomainError.invalidInput "manual submissions require a submitting user")
  | some username =>
    let user ← store (.getUserNamed username)
    let hosted ← host user.token (.getRepository r.fork)
    match ← ifFound (.getRepositoryNamed r.fork) with
    | some known =>
      return (user, if known.disabled then hosted.parent.getD r.fork else r.fork)
    | none => return (user, hosted.parent.getD r.fork)

/-- The submitter and the request with its parent filled in. Whoever caused a hook need not be a
user. -/
def submitter (r : SubmissionRequest) : Operation (Option User × SubmissionRequest) := do
  if r.manual then
    let (user, parent) ← stage "resolving manual submission" (manualParent r)
    return (some user, { r with parent })
  else
    match r.submittedBy with
    | some username =>
      return (← stage "resolving submitter" (ifFound (.getUserNamed username)), r)
    | none => return (none, r)

/-- The parent repository, which must be enabled. -/
def enabledParent (name : String) : Operation Repository := do
  let parent ← stage "obtaining parent repository" (store (.getRepositoryNamed name))
  if parent.disabled then
    fail (DomainError.forbidden ("repository " ++ parent.name ++ " is disabled"))
  return parent

/-- The credential of a repository's owner. -/
def ownerToken (r : Repository) : Operation String := do
  match r.owner with
  | none => fail (Worker.noOwner r)
  | some owner => return (← store (.getUser owner)).token

/-- A fork as it is registered: disabled, and with the owner of its parent. -/
def registration (parent : Repository) (name : String) (hosted : HostRepository) :
    NewRepository where
  name := name
  isPrivate := hosted.isPrivate
  disabled := true
  defaultBranch := hosted.defaultBranch
  metadata := hosted.metadata
  owner := parent.owner
  hookSecret := none

/-- The **fork**, which is registered if it is not known yet. -/
def forkRepository (token : String) (parent : Repository) (name : String) :
    Operation Repository := do
  match ← ifFound (.getRepositoryNamed name) with
  | some known => return known
  | none =>
    let hosted ← host token (.getRepository name)
    match ← tryStore (.createRepository (registration parent name hosted)) with
    | .ok added => return added
    | .error (.duplicate _) => store (.getRepositoryNamed name)
    | .error e => fail e

/-! ### Commits -/

/-- The commit that a revision names: a hash names itself. -/
def sha (token repository revision : String) : Operation String :=
  if Git.isHash revision then return Text.trimmed revision
  else host token (.getSha repository revision)

/-- The text that comes first in order, or the given one if there is none. -/
def firstOr (default : String) (names : List String) : String :=
  match names.mergeSort with
  | [] => default
  | first :: _ => first

/-- The **ref** for a commit. A new one is named after the first branch or tag that names the
commit, or after the commit if none does. -/
def refFor (token : String) (repository : Repository) (sha : String) : Operation Ref := do
  match ← ifFound (.getRefFor repository.id sha) with
  | some known => return known
  | none =>
    let name := firstOr sha (← host token (.getRefs repository.name sha))
    ofDomain (Ref.validate name sha)
    store (.findOrCreateRef repository.id name sha)

/-- The commit of the base: of the main branch if no base is named. -/
def baseSha (token : String) (parent : Repository) (mainBranch base : String) :
    Operation String :=
  if base.isEmpty then
    stage "resolving base from main branch" (host token (.getSha parent.name mainBranch))
  else stage "resolving base" (sha token parent.name base)

/-- The commit to compare with. The zero hash stands for a branch that did not exist before; then
everything up to the head counts as the base. -/
def comparedSha (parent fork : Repository) (head base : String) : Operation String :=
  if base = Git.zeroHash then
    if fork.id ≠ parent.id then
      stage "resolving base" (fail (DomainError.invalidInput
        "base is the zero SHA but the change comes from a fork"))
    else return head
  else return base

/-! ### Configuration -/

/-- The **configuration** in the main branch of the parent repository, or the default one if
there is none. -/
def configuration (token repository mainBranch : String) : Operation RepoConfig := do
  match ← tryHost token (.getFile repository ("refs/" ++ mainBranch) RepoConfig.fileName) with
  | .ok bytes => ofConfig (RepoConfig.parse (Text.ofBytes bytes))
  | .error e => if e.isNotFound then return .default else fail e

/-! ### All together -/

/-- **Resolves** a request. -/
def resolve (r : SubmissionRequest) : Operation Resolved := do
  let request ← stage "validating submission" (ofDomain r.validated)
  let (submitter, request) ← submitter request
  let parent ← stage "configuring repositories" (enabledParent request.parent)
  let token ← stage "obtaining owner client" (ownerToken parent)
  let hosted ← stage "reading parent repository from code host"
    (host token (.getRepository parent.name))
  let mainBranch := Git.mainBranch (hosted.defaultBranch.or parent.defaultBranch)
  let (fork, forkMainBranch) ←
    if request.fork = parent.name then pure (parent, mainBranch)
    else do
      let fork ← stage "configuring repositories"
        (stage "obtaining fork repository" (forkRepository token parent request.fork))
      pure (fork, fork.mainBranch)
  let headSha ← stage "resolving head" (sha token fork.name request.head)
  let baseSha ← baseSha token parent mainBranch request.base
  let baseSha ← comparedSha parent fork headSha baseSha
  let head ← stage "managing head ref" (refFor token fork headSha)
  let base ← stage "managing base ref" (refFor token parent baseSha)
  let config ← stage "loading repository configuration"
    (configuration token parent.name mainBranch)
  let _ ← attempt (Cancellation.ref fork.id head.name forkMainBranch)
  let _ ← tryHost token (.clearStatuses parent.name headSha)
  return { request, parent, fork, token, base, head, submitter, config, mainBranch }

end Resolution

end Dispatch
