import Dispatch.Error
import Dispatch.Text.Quoted
import Dispatch.Text.Segments

/-!
# Repository names

A repository is named `owner/repo`.

## Main definitions

* `Repository.split`: the two parts of a name.
* `Repository.isName`: a text is a repository name.
-/

namespace Dispatch.Repository

/-- A character that no part of a repository name may hold. -/
def isForbidden (c : Char) : Bool := c = '<' || c = '>' || c = '&' || c = '%'

/-- A part neither starts nor ends with a point and holds no forbidden character. -/
def isCleanPart (part : List Char) : Bool :=
  part.head? ≠ some '.' && part.getLast? ≠ some '.' && !part.any isForbidden

/-- The check of one part of the name. -/
def checkPart (name : String) (part : List Char) : Except DomainError Unit :=
  if part.isEmpty then
    .error (.invalidInput ("repository name " ++ Text.quoted name ++ ": empty part"))
  else if isCleanPart part then .ok ()
  else .error
    (.invalidInput ("repository name " ++ Text.quoted name ++ " contains invalid characters"))

/-- **Splits** a repository name into its owner and its own name. -/
def split (name : String) : Except DomainError (String × String) :=
  match Text.segments name.toList with
  | [owner, repo] => do
    checkPart name owner
    checkPart name repo
    return (String.ofList owner, String.ofList repo)
  | _ => .error
    (.invalidInput ("repository name " ++ Text.quoted name ++ ": invalid number of parts"))

/-- A text is a repository name. -/
def isName (name : String) : Bool := (split name).isOk

end Dispatch.Repository
