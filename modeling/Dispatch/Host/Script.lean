import Dispatch.Host.Call

/-!
# A scripted code host

A code host that answers from a script, to try the dispatcher out on. A script lists what there
is; a call is answered by the first entry that fits. Calls can be made to fail.

## Main definitions

* `HostFault`: a failure that a script asks for.
* `HostScript`: what the code host has and what fails.
* `HostScript.answer`: the answer to a call, and the script after it.
-/

namespace Dispatch

namespace HostCall

/-- The **name** of a call in scripts and records. -/
def name : HostCall → String
  | getRepository _ => "get_repository"
  | getSha _ _ => "get_sha"
  | getRefs _ _ => "get_refs"
  | listFiles _ _ => "get_file_list"
  | getFile _ _ _ => "get_file"
  | getDiff _ _ _ => "get_diff_files"
  | postStatus _ _ _ => "post_status"
  | clearStatuses _ _ => "clear_states"
  | comment _ _ _ => "comment_error"

/-- The **arguments** of a call in records. -/
def arguments : HostCall → List Json
  | getRepository name => [.text name]
  | getSha repository ref => [.text repository, .text ref]
  | getRefs repository sha => [.text repository, .text sha]
  | listFiles repository sha => [.text repository, .text sha]
  | getFile repository revision path => [.text repository, .text revision, .text path]
  | getDiff repository base head => [.text repository, .text base, .text head]
  | postStatus repository sha status => [.text repository, .text sha, status.toJson]
  | clearStatuses repository sha => [.text repository, .text sha]
  | comment repository number text => [.text repository, .text text, .int number.toInt]

/-- A call with the credential that it was made under, as a **record**. -/
def record (token : String) (call : HostCall) : Json :=
  .array (.text token :: .text call.name :: call.arguments)

/-- A text is among the arguments of a call. -/
def mentions (call : HostCall) (text : String) : Bool :=
  call.arguments.any fun
    | .text t => t = text
    | _ => false

end HostCall

/-- A **failure** of some calls, of which each counts one time. -/
structure HostFault where
  call : String
  /-- Only calls with this argument fail. -/
  argument : Option String
  /-- How often it still happens; without a number it always does. -/
  times : Option Nat
  error : HostError

namespace HostFault

/-- The failure is about the call. -/
def concerns (f : HostFault) (call : HostCall) : Bool :=
  f.call = call.name && f.argument.all call.mentions && f.times ≠ some 0

/-- The failure of a call, and the failures that remain. -/
def strike? (call : HostCall) : List HostFault → Option (HostError × List HostFault)
  | [] => none
  | f :: rest =>
    if f.concerns call then some (f.error, { f with times := f.times.map (· - 1) } :: rest)
    else (strike? call rest).map fun (e, rest) => (e, f :: rest)

end HostFault

/-- The **script** of a code host. In the place of a repository or revision, `*` fits all. -/
structure HostScript where
  repositories : List HostRepository
  /-- Repository, ref and commit. -/
  shas : List (String × String × String)
  /-- Repository, commit and the names of refs. -/
  refs : List (String × String × List String)
  /-- Repository, revision, path and content. -/
  files : List (String × String × String × List UInt8)
  /-- Repository, revision and paths. -/
  trees : List (String × String × List String)
  /-- Repository, base, head and paths. -/
  diffs : List (String × String × String × List String)
  faults : List HostFault

namespace HostScript

/-- The script of a code host that has nothing. -/
def empty : HostScript := ⟨[], [], [], [], [], [], []⟩

/-- One script in front of another. -/
def append (s t : HostScript) : HostScript where
  repositories := s.repositories ++ t.repositories
  shas := s.shas ++ t.shas
  refs := s.refs ++ t.refs
  files := s.files ++ t.files
  trees := s.trees ++ t.trees
  diffs := s.diffs ++ t.diffs
  faults := s.faults ++ t.faults

instance : Append HostScript := ⟨append⟩

/-- A place in an entry fits an argument. -/
def fits (place argument : String) : Bool := place = "*" || place = argument

/-- A value that is there, or the failure that says what there is not. -/
def expect {α : Type} (value : Option α) (subject : String) : Except HostError α :=
  match value with
  | some a => .ok a
  | none => .error (.notFound subject)

/-- The paths of a revision: as listed, or else those of its files, each once. -/
def paths (s : HostScript) (repository revision : String) : List String :=
  match s.trees.find? fun (r, v, _) => fits r repository && fits v revision with
  | some (_, _, paths) => paths
  | none =>
    ((s.files.filter fun (r, v, _) => fits r repository && fits v revision).map
      fun (_, _, path, _) => path).eraseDups

/-- What there is in answer to a call. -/
def lookUp (s : HostScript) : (call : HostCall) → Except HostError call.Reply
  | .getRepository name =>
    expect (s.repositories.find? (·.fullName = name)) ("repository " ++ name)
  | .getSha repository ref =>
    expect ((s.shas.find? fun (r, n, _) => fits r repository && n = ref).map
      fun (_, _, sha) => sha) ("ref " ++ ref)
  | .getRefs repository sha =>
    .ok (((s.refs.find? fun (r, c, _) => fits r repository && c = sha).map
      fun (_, _, names) => names).getD [])
  | .listFiles repository revision => .ok (s.paths repository revision)
  | .getFile repository revision path =>
    expect ((s.files.find? fun (r, v, p, _) =>
      fits r repository && fits v revision && p = path).map
      fun (_, _, _, content) => content) ("file " ++ path)
  | .getDiff repository base head =>
    .ok (((s.diffs.find? fun (r, b, h, _) =>
      fits r repository && fits b base && fits h head).map
      fun (_, _, _, paths) => paths).getD [])
  | .postStatus _ _ _ | .clearStatuses _ _ | .comment _ _ _ => .ok ()

/-- The **answer** to a call, and the script after it. -/
def answer (s : HostScript) (call : HostCall) : Except HostError call.Reply × HostScript :=
  match HostFault.strike? call s.faults with
  | some (e, faults) => (.error e, { s with faults })
  | none => (s.lookUp call, s)

end HostScript

end Dispatch
