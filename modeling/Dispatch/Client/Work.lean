import Dispatch.Files.Tree
import Dispatch.Web.Http

/-!
# What the client works with

The client reads files and sends requests. It ends with something to show or with a failure, which
is shown together with what it stems from.

## Main definitions

* `Client.Need`: what the client asks for.
* `Client.Work`: work of the client, which may fail.
* `Client.Report`: what the client shows in the end.
-/

namespace Dispatch.Client

/-- What the client **asks for**. -/
inductive Need where
  | file (path : String)
  | reply (request : Http.Request)

/-- What the client is **answered**. -/
abbrev Need.Answer : Need → Type
  | file _ => Except FileError String
  | reply _ => Http.Outcome

/-- A **failure** and what it stems from, the nearest cause first. -/
structure Failure where
  message : String
  causes : List String
deriving DecidableEq

namespace Failure

/-- A text of several lines, of which all but the first are indented. -/
def indented (width : Nat) (s : String) : String :=
  ("\n" ++ "".pushn ' ' width).intercalate ((s.toList.splitOn '\n').map String.ofList)

/-- A number that is as wide as five digits. -/
def ordinal (n : Nat) : String :=
  let digits := (toString n).toList
  "".pushn ' ' (5 - digits.length) ++ String.ofList digits

/-- The lines that tell the causes. Several causes are numbered from zero. -/
def causeLines : List String → List String
  | [] => []
  | [cause] => ["    " ++ indented 4 cause]
  | causes => causes.zipIdx.map fun (cause, n) => ordinal n ++ ": " ++ indented 7 cause

/-- The **text of a failure**. -/
def text (f : Failure) : String :=
  let causes := if f.causes.isEmpty then ""
    else "\n\nCaused by:\n" ++ "\n".intercalate (causeLines f.causes)
  "Error: " ++ f.message ++ causes ++ "\n"

end Failure

/-- **Work** of the client. -/
abbrev Work := ExceptT Failure (Dialogue Need Need.Answer)

namespace Work

/-- Reads a file. -/
def readFile (path : String) : Work String := do
  match ← ExceptT.lift (Dialogue.question (Need.file path)) with
  | .ok content => return content
  | .error e => throw ⟨"reading " ++ path, [e.message]⟩

/-- Sends a request. -/
def send (r : Http.Request) : Work Http.Response := do
  match ← ExceptT.lift (Http.sendVia (fun r => Dialogue.question (Need.reply r)) r) with
  | .ok response => return response
  | .error f => throw ⟨f.message, f.reasons⟩

end Work

/-- What the client **shows in the end**, and the number that it ends with. -/
structure Report where
  exitCode : UInt32
  out : String
  err : String
deriving DecidableEq

namespace Report

/-- All went well. -/
def success (out : String) : Report := ⟨0, out, ""⟩

/-- Something went wrong. -/
def ofFailure (f : Failure) : Report := ⟨1, "", f.text⟩

/-- The client was called in a way that makes no sense. -/
def misuse : Report := ⟨2, "", "error: the command line is not understood\n"⟩

end Report

end Dispatch.Client
