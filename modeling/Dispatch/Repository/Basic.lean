import Dispatch.Git.Branch
import Dispatch.Git.Ref
import Dispatch.Repository.Name
import Dispatch.Timestamp

/-!
# Users and repositories

A repository belongs to a user, whose credential is used for it.

## Main definitions

* `User`, `Repository`: the stored records.
* `Repository.validate`: the check of a repository.
* `Repository.toJson`, `Repository.ofJson?`: the record in JSON, which keeps the hook secret to
  itself.
-/

namespace Dispatch

/-- A point in time in JSON: its text. -/
def Timestamp.toJson (t : Timestamp) : Json := .text t.text

/-- Reads a point in time from its text. -/
def Timestamp.ofJson? : Json → Option Timestamp
  | .text s => Timestamp.parse? s
  | _ => none

/-- A **user**, with the credential that acts for the user on the code host. -/
structure User where
  id : Id
  username : String
  token : String
  createdAt : Timestamp

/-- A **repository** that has been registered. -/
structure Repository where
  id : Id
  name : String
  isPrivate : Bool
  disabled : Bool
  /-- The default branch as the code host reports it, without `heads/`. -/
  defaultBranch : Option String
  metadata : Json
  owner : Option Id
  hookSecret : Option String
  createdAt : Timestamp

/-- What is needed to register a repository. -/
structure NewRepository where
  name : String
  isPrivate : Bool
  disabled : Bool
  defaultBranch : Option String
  metadata : Json
  owner : Option Id
  hookSecret : Option String

/-- The user without the credential. -/
def User.toJson (stamp : Timestamp → Json) (u : User) : Json :=
  .object [("id", u.id.toJson), ("username", .text u.username), ("created_at", stamp u.createdAt)]

namespace Repository

/-- The name is well formed, and a disabled repository has no hook secret. -/
def validate (r : Repository) : Except DomainError Unit := do
  let _ ← split r.name
  if r.disabled && r.hookSecret.isSome then
    .error (.invalidInput
      ("repository " ++ r.name ++ " is disabled but still carries a hook secret"))
  else .ok ()

/-- The full name of the main branch. -/
def mainBranch (r : Repository) : String := Git.mainBranch r.defaultBranch

/-- The repository as a record; the hook secret is left out. -/
def toJson (stamp : Timestamp → Json) (r : Repository) : Json :=
  .object [("id", r.id.toJson), ("name", .text r.name), ("private", .bool r.isPrivate),
    ("disabled", .bool r.disabled), ("default_branch", .ofOption .text r.defaultBranch),
    ("metadata", r.metadata), ("owner_id", .ofOption Id.toJson r.owner),
    ("created_at", stamp r.createdAt)]

/-- The names of the fields in their order. -/
def fieldNames : List String :=
  ["id", "name", "private", "disabled", "default_branch", "metadata", "owner_id", "hook_secret",
    "created_at"]

/-- Reads a repository. -/
def ofJson? (j : Json) : Option Repository := do
  let m ← j.members? fieldNames
  return {
    id := ← m.required "id" Id.ofJson?
    name := ← m.required "name" Json.string?
    isPrivate := ← m.required "private" Json.bool?
    disabled := ← m.required "disabled" Json.bool?
    defaultBranch := ← m.optional "default_branch" Json.string?
    metadata := ← m.required "metadata" some
    owner := ← m.optional "owner_id" Id.ofJson?
    hookSecret := ← m.defaulted "hook_secret" none (Json.nullable? Json.string?)
    createdAt := ← m.required "created_at" Timestamp.ofJson? }

end Repository

end Dispatch
