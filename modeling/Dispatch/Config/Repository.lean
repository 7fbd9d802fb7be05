import Dispatch.Config.Field
import Dispatch.Queue.Item

/-!
# The configuration of a repository

A repository can carry a file that sets defaults and limits for its tasks.

## Main definitions

* `RepoConfig`: what the file configures.
* `RepoConfig.parse`: reads the file.
* `RepoConfig.isIgnored`: whether tasks in a directory are never selected.
-/

namespace Dispatch

/-- The **configuration of a repository**. -/
structure RepoConfig where
  workdir : String
  queue : String
  /-- All runs go to the queue of the repository. -/
  overrideQueue : Bool
  /-- In seconds; zero means that there is none. -/
  globalTimeout : UInt64
  /-- All runs get the timeout of the repository. -/
  overrideTimeout : Bool
  ignoreDirectories : List String
  metadata : Dictionary String
  /-- Metadata of the repository counts more than that of a run. -/
  overrideMetadata : Bool
  defaultImage : String
  defaultResources : Resources
  allowPrivileged : Bool
deriving DecidableEq

namespace RepoConfig

/-- The name of the file in the root of a repository. -/
def fileName : String := "ferry.kdl"

/-- The configuration of a repository without the file. -/
def default : RepoConfig where
  workdir := ""
  queue := Queue.defaultName
  overrideQueue := false
  globalTimeout := 0
  overrideTimeout := false
  ignoreDirectories := []
  metadata := .empty
  overrideMetadata := false
  defaultImage := ""
  defaultResources := .none
  allowPrivileged := false

/-- Whether a directory is **ignored**: its name begins with one of the given ones. -/
def isIgnored (c : RepoConfig) (dir : String) : Bool :=
  c.ignoreDirectories.any fun ignored =>
    !ignored.isEmpty && ignored.toList.isPrefixOf dir.toList

/-- Takes a field of the file into account. A later field replaces an earlier one. -/
def assign (c : RepoConfig) (n : Kdl.Node) : Except ConfigError RepoConfig := do
  match n.name with
  | "workdir" => return { c with workdir := ← Field.text n }
  | "queue" => return { c with queue := ← Field.text n }
  | "override-queue" => return { c with overrideQueue := ← Field.flag n }
  | "global-timeout" => return { c with globalTimeout := ← Field.number n }
  | "override-timeout" => return { c with overrideTimeout := ← Field.flag n }
  | "ignore-directories" => return { c with ignoreDirectories := ← Field.texts n }
  | "metadata" => return { c with metadata := ← Field.textMap n }
  | "override-metadata" => return { c with overrideMetadata := ← Field.flag n }
  | "default-image" => return { c with defaultImage := ← Field.text n }
  | "default-resources" => return { c with defaultResources := ← Field.resources n }
  | "allow-privileged" => return { c with allowPrivileged := ← Field.flag n }
  | other => .error (.unknownField other)

/-- The configuration that a document describes. -/
def ofDocument (nodes : List Kdl.Node) : Except ConfigError RepoConfig := do
  let c ← nodes.foldlM assign default
  return { c with queue := Queue.nameOrDefault c.queue }

/-- Reads a **configuration file**. -/
def parse (text : String) : Except ConfigError RepoConfig :=
  match Kdl.parse? text with
  | some nodes => ofDocument nodes
  | none => .error .unreadable

/-- The configuration as a record. -/
def toJson (c : RepoConfig) : Json :=
  .object [("workdir", .text c.workdir), ("queue", .text c.queue),
    ("override_queue", .bool c.overrideQueue),
    ("global_timeout_secs", .int c.globalTimeout.toNat),
    ("override_timeout", .bool c.overrideTimeout),
    ("ignore_directories", .array (c.ignoreDirectories.map .text)),
    ("metadata", .ofDictionary .text c.metadata),
    ("override_metadata", .bool c.overrideMetadata),
    ("default_image", .text c.defaultImage),
    ("default_resources", c.defaultResources.toJson),
    ("allow_privileged", .bool c.allowPrivileged)]

/-- The names of the fields in their order. -/
def fieldNames : List String :=
  ["workdir", "queue", "override_queue", "global_timeout_secs", "override_timeout",
    "ignore_directories", "metadata", "override_metadata", "default_image", "default_resources",
    "allow_privileged"]

/-- Reads the configuration from a record. -/
def ofJson? (j : Json) : Option RepoConfig := do
  let m ← j.members? fieldNames
  return {
    workdir := ← m.required "workdir" Json.string?
    queue := ← m.required "queue" Json.string?
    overrideQueue := ← m.required "override_queue" Json.bool?
    globalTimeout := ← m.required "global_timeout_secs" Json.uint64?
    overrideTimeout := ← m.required "override_timeout" Json.bool?
    ignoreDirectories := ← m.required "ignore_directories" (Json.list? Json.string?)
    metadata := ← m.required "metadata" (Json.dictionary? Json.string?)
    overrideMetadata := ← m.required "override_metadata" Json.bool?
    defaultImage := ← m.required "default_image" Json.string?
    defaultResources := ← m.required "default_resources" Resources.ofJson?
    allowPrivileged := ← m.required "allow_privileged" Json.bool? }

end RepoConfig

end Dispatch
