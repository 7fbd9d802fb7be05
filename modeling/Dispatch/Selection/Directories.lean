import Dispatch.Config.Task

/-!
# Selecting task directories

A change selects the task directories that it touches. A changed directory that declares a task
is selected, and so is the nearest task directory above it. The task in the root always runs.

## Main definitions

* `Selection.taskDirectories`: the directories of a file list that declare tasks.
* `Selection.changedDirectories`: the directories of changed files.
* `Selection.select`: the task directories that changed directories select.
-/

namespace Dispatch

/-- A set of directories, each in its normal form, in ascending order. -/
abbrev Directories := Dictionary Unit

namespace Directories

/-- The set with one directory more. -/
def add (dirs : Directories) (dir : String) : Directories := dirs.insert dir ()

end Directories

namespace Selection

/-! ### Paths -/

/-- The last segment of a path. -/
def fileName (path : String) : String :=
  String.ofList ((Text.segments path.toList).getLastD [])

/-- The directory of a file. -/
def directoryOf (path : String) : Except ConfigError String :=
  match (Text.segments path.toList).dropLast with
  | [] => .ok Directory.root
  | above => Directory.normalize (String.ofList (Text.ofSegments above))

/-- The path of the file that declares the task of a directory. -/
def declarationPath (dir : String) : String :=
  if dir = Directory.root then TaskDeclaration.fileName
  else dir ++ "/" ++ TaskDeclaration.fileName

/-! ### Sets of directories -/

/-- Takes a file into account when task directories are collected. -/
def addTaskDirectory (c : RepoConfig) (dirs : Directories) (path : String) :
    Except ConfigError Directories :=
  if fileName path = TaskDeclaration.fileName then do
    let dir ← directoryOf path
    return if c.isIgnored dir then dirs else dirs.add dir
  else .ok dirs

/-- The **task directories** of a file list, except for the ignored ones. -/
def taskDirectories (c : RepoConfig) (files : List String) : Except ConfigError Directories :=
  files.foldlM (addTaskDirectory c) .empty

/-- The **directories of changed files**. -/
def changedDirectories (files : List String) : Except ConfigError Directories :=
  files.foldlM (fun dirs path => do return dirs.add (← directoryOf path)) .empty

/-! ### Selecting -/

/-- The second directory is the first one or lies above it. -/
def isWithin (dir above : String) : Bool :=
  above = Directory.root || dir = above || (above.toList ++ ['/']).isPrefixOf dir.toList

/-- How deep a directory lies. -/
def depth (dir : String) : Nat :=
  if dir = Directory.root then 0 else (Text.segments dir.toList).length

/-- The deepest of some directories; of equally deep ones the last. -/
def deepest? (dirs : List String) : Option String :=
  dirs.foldl (fun best dir =>
    match best with
    | some b => if depth b ≤ depth dir then some dir else some b
    | none => some dir) none

/-- The nearest task directory strictly above a directory. -/
def nearestAbove? (tasks : Directories) (dir : String) : Option String :=
  deepest? (tasks.keys.filter fun t => t ≠ dir && isWithin dir t)

/-- Takes a changed directory into account when task directories are selected. -/
def addSelected (tasks selected : Directories) (dir : String) : Directories :=
  let selected := if tasks.contains dir then selected.add dir else selected
  match nearestAbove? tasks dir with
  | some t => selected.add t
  | none => selected

/-- The task directories that changed directories **select**. -/
def select (tasks changed : Directories) : Directories :=
  changed.keys.foldl (addSelected tasks)
    (if tasks.contains Directory.root then Directories.add .empty Directory.root else .empty)

end Selection

end Dispatch
