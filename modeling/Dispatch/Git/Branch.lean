import Dispatch.Error
import Dispatch.Git.Sha
import Dispatch.Text.Quoted
import Dispatch.Text.Segments

/-!
# Branch names

A branch is known under the name `heads/<branch>`, however it was written in a request.

## Main definitions

* `Git.qualifyBranch`: the full name of a branch.
* `Git.mainBranch`: the full name of a repository's default branch.
-/

namespace Dispatch.Git

/-- A segment that neither is empty nor stands for a directory relative to another. -/
def isProperSegment (s : List Char) : Bool := !s.isEmpty && s != ['.'] && s != ['.', '.']

/-- A text without a leading `refs/heads/`. -/
def stripRefsHeads (cs : List Char) : List Char :=
  if "refs/heads/".toList.isPrefixOf cs then cs.drop "refs/heads/".length else cs

/-- The proper segments of a branch name, each without white space at its ends. -/
def branchSegments (cs : List Char) : List (List Char) :=
  ((Text.segments cs).map Text.trim).filter isProperSegment

/-- The segment that every full branch name begins with. -/
def heads : List Char := ['h', 'e', 'a', 'd', 's']

/-- The **full name** of a branch: `heads/` and its proper segments. A name that is a hash, that
starts with a slash or that has no proper segment after `heads` is refused. -/
def qualifyBranch (branch : String) : Except DomainError String :=
  if isHash branch then .error (.invalidInput (Text.quoted branch ++ " is a sha, not a branch"))
  else if branch.toList.head? = some '/' then
    .error (.invalidInput ("invalid branch name " ++ Text.quoted branch))
  else
    let name := stripRefsHeads (Text.trim branch.toList)
    let parts := branchSegments name
    let refused := Except.error
      (DomainError.invalidInput ("invalid branch name " ++ Text.quoted (String.ofList name)))
    match parts with
    | [] => refused
    | first :: rest =>
      if first = heads then
        if rest.isEmpty then refused else .ok (String.ofList (Text.ofSegments parts))
      else .ok (String.ofList (Text.ofSegments (heads :: parts)))

/-- The full name of the branch that is taken when the code host names no default branch. -/
def fallbackMainBranch : String := "heads/master"

/-- The full name of a repository's **main branch**, given the default branch as the code host
reports it. -/
def mainBranch : Option String → String
  | some branch => if branch.isEmpty then fallbackMainBranch else "heads/" ++ branch
  | none => fallbackMainBranch

end Dispatch.Git
