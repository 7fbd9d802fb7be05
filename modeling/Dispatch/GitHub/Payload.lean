import Dispatch.Host.Call

/-!
# What GitHub replies

The parts of the replies of GitHub that count; a reply may have others. The description of a
repository is kept as a whole, and what counts is taken from it afterwards.

## Main definitions

* `GitHub.repository?`, `GitHub.commit?` and so on: the meaning of a reply.
-/

namespace Dispatch.GitHub

/-- The full name in the description of a repository. -/
def fullName? (j : Json) : Option String := do
  let m ← j.members? ["full_name"]
  m.required "full_name" Json.string?

/-- The **repository** that a reply describes. -/
def repository? (j : Json) : Option HostRepository := do
  let m ← j.members? ["full_name", "private", "fork", "parent", "default_branch"]
  return {
    fullName := ← m.required "full_name" Json.string?
    isPrivate := ← m.defaulted "private" false Json.bool?
    isFork := ← m.defaulted "fork" false Json.bool?
    parent := ← m.optional "parent" fullName?
    defaultBranch := ← m.optional "default_branch" Json.string?
    metadata := j }

/-- The commit in the description of an object. -/
def sha? (j : Json) : Option String := do
  let m ← j.distinctMembers? ["sha"]
  m.required "sha" Json.string?

/-- The **commit** that a ref names. -/
def commit? (j : Json) : Option String := do
  let m ← j.distinctMembers? ["object"]
  m.required "object" sha?

/-- The name of a branch. -/
def branch? (j : Json) : Option String := do
  let m ← j.distinctMembers? ["name"]
  m.required "name" Json.string?

/-- The **branches** of a reply, as names of refs. -/
def branches? (j : Json) : Option (List String) :=
  (Json.list? branch? j).map (·.map ("heads/" ++ ·))

/-- An entry of a tree: its path, and what kind of object it is. -/
structure TreeEntry where
  path : String
  kind : String

/-- Reads an entry of a tree. -/
def TreeEntry.ofJson? (j : Json) : Option TreeEntry := do
  let m ← j.distinctMembers? ["path", "type"]
  return ⟨← m.required "path" Json.string?, ← m.required "type" Json.string?⟩

/-- A **tree** of files and directories, which may have been cut off for its size. -/
structure Tree where
  entries : List TreeEntry
  truncated : Bool

/-- Reads a tree. -/
def Tree.ofJson? (j : Json) : Option Tree := do
  let m ← j.distinctMembers? ["tree", "truncated"]
  return ⟨← m.required "tree" (Json.list? TreeEntry.ofJson?),
    ← m.defaulted "truncated" false Json.bool?⟩

/-- The files of a tree. -/
def Tree.files (t : Tree) : List String :=
  (t.entries.filter (·.kind = "blob")).map (·.path)

/-- The name of a file that differs. -/
def changedFile? (j : Json) : Option String := do
  let m ← j.distinctMembers? ["filename"]
  m.required "filename" Json.string?

/-- The **files that differ** in a comparison. -/
def comparison? (j : Json) : Option (List String) := do
  let m ← j.distinctMembers? ["files"]
  m.defaulted "files" [] (Json.list? changedFile?)

/-- A **status** that a commit has: what it is about, and where it leads. -/
structure PostedStatus where
  context : String
  targetUrl : Option String
deriving DecidableEq

/-- Reads a status that a commit has. -/
def PostedStatus.ofJson? (j : Json) : Option PostedStatus := do
  let m ← j.distinctMembers? ["context", "target_url"]
  return ⟨← m.required "context" Json.string?, ← m.optional "target_url" Json.string?⟩

end Dispatch.GitHub
