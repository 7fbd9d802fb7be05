import Dispatch.Client.Work
import Dispatch.Config.Task
import Dispatch.Task.Run

/-!
# Checking declarations

A declaration is checked on the user's machine as the dispatcher would check it.

## Main definitions

* `Client.validate`: checks a declaration and lists what it declares.
-/

namespace Dispatch.Client

/-- Reads a file and what it declares. -/
def declaration {α : Type} (path : String) (parse : String → Except ConfigError α) : Work α := do
  match parse (← Work.readFile path) with
  | .ok a => return a
  | .error e => throw ⟨"parsing " ++ path, e.chain⟩

/-- The line for a run that a declaration in a directory has. -/
def runLine (dir name : String) (r : RunSettings) : String :=
  "  " ++ Run.displayName dir name ++ ": image=" ++ r.image ++ " queue=" ++ r.queue ++
    " timeout=" ++ Decimal.ofNat r.timeout.toNat ++ "s\n"

/-- What a declaration in a directory **declares**: a line for each dependency and each run. -/
def overview (dir : String) (s : TaskSettings) : String :=
  "Configuration is valid\n" ++
    String.join (s.dependencies.map fun d => "  depends on " ++ d ++ "\n") ++
    String.join (s.runs.entries.map fun (name, r) => runLine dir name r)

/-- **Checks** the declaration with a path under a configuration of the repository. -/
def validate (path : String) (repositoryConfig : Option String) : Work String := do
  let config ← match repositoryConfig with
    | some file => declaration file RepoConfig.parse
    | none => pure .default
  let settings ← declaration path (TaskDeclaration.parse config)
  return overview (Files.parent path) settings

end Dispatch.Client
