import Dispatch.Text.Segments

/-!
# Files

A program reads files by their paths. Here is what it can learn from that, and a tree of files
for which the answers are known.

## Main definitions

* `FileError`: why a file cannot be read.
* `FileTree`: the files below a directory.
* `FileTree.read`: the content of the file with a path.
* `Files.parent`: the directory that a path says the file is in.
-/

namespace Dispatch

/-- Why a **file cannot be read**. -/
inductive FileError where
  | missing
  /-- The path goes through something that is no directory. -/
  | notDirectory
  | isDirectory
  /-- The content is not UTF-8. -/
  | notText
  | other (reason : String)
deriving DecidableEq, Repr

/-- The wording of a reason. -/
def FileError.message : FileError → String
  | missing => "No such file or directory (os error 2)"
  | notDirectory => "Not a directory (os error 20)"
  | isDirectory => "Is a directory (os error 21)"
  | notText => "stream did not contain valid UTF-8"
  | other reason => reason

/-- The **files below a directory**, and the directories. Paths are lists of names. -/
structure FileTree where
  files : List (List String × String)
  directories : List (List String)

namespace FileTree

/-- A directory without files. -/
def empty : FileTree := ⟨[], [[]]⟩

/-- Where a walk along a path has come to. -/
inductive Place where
  | directory (names : List String)
  | file (content : String)
  /-- A directory above the tree, or one to which a path from the root leads. -/
  | outside
deriving DecidableEq

/-- One step of a **walk**. Nothing is known of what is outside but directories further up. -/
def step (t : FileTree) : Place → String → Except FileError Place
  | .file _, _ => .error .notDirectory
  | .outside, name =>
    if name = "" || name = "." || name = ".." then .ok .outside else .error .missing
  | .directory names, name =>
    if name = "" || name = "." then .ok (.directory names)
    else if name = ".." then
      if names.isEmpty then .ok .outside else .ok (.directory names.dropLast)
    else
      let path := names ++ [name]
      match t.files.lookup path with
      | some content => .ok (.file content)
      | none => if t.directories.contains path then .ok (.directory path) else .error .missing

/-- The **content** of the file with a path. -/
def read (t : FileTree) (path : String) : Except FileError String := do
  if path.isEmpty then throw .missing
  let start := if path.toList.head? = some '/' then .outside else .directory []
  let names := (Text.segments path.toList).map String.ofList
  match ← names.foldlM t.step start with
  | .file content => return content
  | .directory _ | .outside => throw .isDirectory

/-- The tree with a file added, and with the directories on its path. -/
def add (t : FileTree) (path content : String) : FileTree :=
  let names := (Text.segments path.toList).map String.ofList
  let walk (place : List String) (name : String) : List String :=
    if name = "" || name = "." then place
    else if name = ".." then place.dropLast
    else place ++ [name]
  let prefixes := (List.range names.length).map fun n => (names.take n).foldl walk []
  { files := (names.foldl walk [], content) :: t.files
    directories := prefixes ++ t.directories }

end FileTree

namespace Files

/-- Without the segments at the end that lead nowhere. The first segment always counts. -/
def trimIdle : List (List Char) → List (List Char)
  | [] => []
  | first :: rest =>
    first :: (rest.reverse.dropWhile fun s => s.isEmpty || s = ['.']).reverse

/-- The **directory** that a path says the file is in: the path without its last segment. -/
def parent (path : String) : String :=
  match trimIdle (trimIdle (Text.segments path.toList)).dropLast with
  | [[]] => "/"
  | parts => String.ofList (Text.ofSegments parts)

end Files

end Dispatch
