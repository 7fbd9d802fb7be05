import Dispatch.Error
import Dispatch.Git.Sha
import Dispatch.Identifier
import Dispatch.Json.Record
import Dispatch.Text.Quoted

/-!
# Refs

A ref names a commit of a repository. Refs are only ever added, and there is one for each commit.

## Main definitions

* `Ref`: a stored ref.
* `Ref.validate`: the check of its name and hash.
-/

namespace Dispatch

/-- The identifier in JSON: its text. -/
def Id.toJson (id : Id) : Json := .text id.text

/-- Reads an identifier from its text. -/
def Id.ofJson? : Json → Option Id
  | .text s => Id.parse? s
  | _ => none

/-- A **ref**: a branch or tag of a repository, or a bare hash, with the commit it named when it
was seen. -/
structure Ref where
  id : Id
  repository : Id
  name : String
  sha : String
deriving DecidableEq

namespace Ref

/-- The name is not empty and the hash has exactly forty hexadecimal digits. -/
def validate (name sha : String) : Except DomainError Unit :=
  if name.isEmpty then .error (.invalidInput "empty ref name")
  else if sha.isEmpty then .error (.invalidInput "empty SHA")
  else if Git.isBareHash sha.toList then .ok ()
  else .error (.invalidInput ("invalid SHA " ++ Text.quoted sha))

/-- The ref as a record. -/
def toJson (r : Ref) : Json :=
  .object [("id", r.id.toJson), ("repository_id", r.repository.toJson),
    ("ref_name", .text r.name), ("sha", .text r.sha)]

end Ref

end Dispatch
