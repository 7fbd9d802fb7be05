import Dispatch.Config.Error
import Dispatch.Text.Blank
import Dispatch.Text.Segments

/-!
# Directories of a repository

A directory is named by its path from the root of the repository. The same directory can be
spelled in several ways; one of them is its normal form.

## Main definitions

* `Directory.root`: the root.
* `Directory.normalize`: the normal form of a spelling.
-/

namespace Dispatch.Directory

/-- The **root** of a repository. -/
def root : String := "."

/-- The root in characters. -/
def rootText : List Char := ['.']

/-- The segment that leads to the directory above. -/
def parentText : List Char := ['.', '.']

/-- A segment that changes nothing: an empty one, or the one that stays where it is. -/
def isIdle (segment : List Char) : Bool := segment = [] || segment = rootText

/-- The segments of a spelling that lead somewhere. -/
def steps (spelling : List Char) : List (List Char) :=
  (Text.segments (Text.trim spelling)).filter fun segment => !isIdle segment

/-- The directory that the given segments lead to from the root. -/
def ofSteps : List (List Char) → List Char
  | [] => rootText
  | parts => Text.ofSegments parts

/-- The **normal form** of a directory. A spelling that leads upwards anywhere is refused. -/
def normalize (dir : String) : Except ConfigError String :=
  let parts := steps dir.toList
  if parentText ∈ parts then
    .error (.invalidReference ("directory " ++ Text.quoted dir ++ " escapes the repository"))
  else .ok (String.ofList (ofSteps parts))

end Dispatch.Directory
