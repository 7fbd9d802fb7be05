import Dispatch.Store.Basic

/-!
# Users, repositories, refs and submissions in the store

## Main definitions

* `Store.createUser`, `Store.createRepository`, `Store.createSubmission`: adding records.
* `Store.findOrCreateRef`: the ref for a commit, which is added if there is none.
-/

namespace Dispatch.Store

/-! ### Users -/

/-- Adds a **user**; names are unique. -/
def createUser (now : Timestamp) (username token : String) : StoreM User := do
  let s ← get
  if (s.userNamed? username).isSome then throw (.duplicate ("user " ++ username))
  let user : User := ⟨.issued .user (s.users.length + 1), username, token, now⟩
  set { s with users := s.users ++ [user] }
  return user

/-- The user with the name. -/
def userNamed (s : Store) (username : String) : Except StoreError User :=
  expect (s.userNamed? username) ("user " ++ username)

/-! ### Repositories -/

/-- Adds a **repository**; names are unique, and a disabled repository keeps no hook secret. -/
def createRepository (now : Timestamp) (new : NewRepository) : StoreM Repository := do
  let s ← get
  match Repository.split new.name with
  | .error cause => throw (.invalid cause)
  | .ok _ =>
    if (s.repositoryNamed? new.name).isSome then throw (.duplicate ("repository " ++ new.name))
    let repository : Repository := {
      id := .issued .repository (s.repositories.length + 1)
      name := new.name
      isPrivate := new.isPrivate
      disabled := new.disabled
      defaultBranch := new.defaultBranch
      metadata := new.metadata
      owner := new.owner
      hookSecret := if new.disabled then none else new.hookSecret
      createdAt := now }
    set { s with repositories := s.repositories ++ [repository] }
    return repository

/-- The repository with the name. -/
def repositoryNamed (s : Store) (name : String) : Except StoreError Repository :=
  expect (s.repositoryNamed? name) ("repository " ++ name)

/-! ### Refs -/

/-- The ref of a repository for a commit. -/
def refFor (s : Store) (repository : Id) (sha : String) : Except StoreError Ref :=
  expect (s.refFor? repository sha) ("ref " ++ sha ++ " in repository " ++ repository.text)

/-- The **ref** of a repository for a commit, under the given name if it has to be added. -/
def findOrCreateRef (repository : Id) (name sha : String) : StoreM Ref := do
  match Ref.validate name sha with
  | .error cause => throw (.invalid cause)
  | .ok _ =>
    let s ← get
    let _ ← look (·.repository repository)
    match s.refFor? repository sha with
    | some known => return known
    | none =>
      let ref : Ref := ⟨.issued .gitRef (s.refs.length + 1), repository, name, sha⟩
      set { s with refs := s.refs ++ [ref] }
      return ref

/-! ### Submissions -/

/-- Adds a **submission** for refs that are there. -/
def createSubmission (now : Timestamp) (new : NewSubmission) : StoreM Submission := do
  let s ← get
  let _ ← look (·.ref new.base)
  if let some head := new.head then
    let _ ← look (·.ref head)
  let stored : StoredSubmission := {
    id := .issued .submission (s.submissions.length + 1)
    base := new.base
    head := new.head
    submittedBy := new.submittedBy
    ticket := new.ticket
    createdAt := now }
  set { s with submissions := s.submissions ++ [stored] }
  look (·.submission stored.id)

end Dispatch.Store
