import Dispatch.Host.Error
import Dispatch.Host.Status
import Dispatch.Json.Record

/-!
# Calls to the code host

The requests to the code host as values. Each is made under the credential of some user.

## Main definitions

* `HostRepository`: a repository as the code host describes it.
* `HostCall`: the requests with their arguments.
* `HostCall.Reply`: the type of what a request answers with.
-/

namespace Dispatch

/-- A **repository as the code host describes it**. -/
structure HostRepository where
  fullName : String
  isPrivate : Bool
  isFork : Bool
  /-- The repository that a fork was made from. -/
  parent : Option String
  defaultBranch : Option String
  /-- All that the code host says about the repository. -/
  metadata : Json

/-- A repository as the code host describes it, as a record. -/
def HostRepository.toJson (r : HostRepository) : Json :=
  .object [("full_name", .text r.fullName), ("private", .bool r.isPrivate),
    ("fork", .bool r.isFork), ("parent", .ofOption .text r.parent),
    ("default_branch", .ofOption .text r.defaultBranch), ("metadata", r.metadata)]

/-- A **request** to the code host. -/
inductive HostCall where
  | getRepository (name : String)
  /-- The commit that a ref names. -/
  | getSha (repository ref : String)
  /-- The branches and tags that name a commit. -/
  | getRefs (repository sha : String)
  | listFiles (repository sha : String)
  | getFile (repository revision path : String)
  /-- The files that differ between two commits. -/
  | getDiff (repository base head : String)
  | postStatus (repository sha : String) (status : CommitStatus)
  /-- Replaces every status of a commit by an error. -/
  | clearStatuses (repository sha : String)
  | comment (repository : String) (pullRequest : Int64) (text : String)

namespace HostCall

/-- What a request is **answered** with. -/
abbrev Reply : HostCall → Type
  | getRepository _ => HostRepository
  | getSha _ _ => String
  | getRefs _ _ | listFiles _ _ | getDiff _ _ _ => List String
  | getFile _ _ _ => List UInt8
  | postStatus _ _ _ | clearStatuses _ _ | comment _ _ _ => Unit

end HostCall

end Dispatch
