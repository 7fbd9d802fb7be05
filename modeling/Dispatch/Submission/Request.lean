import Dispatch.Git.Branch
import Dispatch.Json.Record
import Dispatch.Repository.Name

/-!
# Submission requests

A request to test a change, delivered when a branch or a pull request changes or made by hand.

## Main definitions

* `SubmissionRequest`: the request.
* `SubmissionRequest.validated`: the request with its branches under their full names.
-/

namespace Dispatch

/-- A **request** to test a change. -/
structure SubmissionRequest where
  /-- The repository that the change is proposed against; a manual request leaves it open. -/
  parent : String
  /-- The repository that holds the change. -/
  fork : String
  /-- A hash or a branch. -/
  head : String
  /-- A hash or a branch; a manual request may leave it blank. -/
  base : String
  pullRequest : Option Int64
  submittedBy : Option String
  /-- Run every task, whatever the change touches. -/
  all : Bool
  manual : Bool
deriving DecidableEq

namespace SubmissionRequest

/-- A hash as it is, and anything else as a branch under its full name. -/
def qualified (revision : String) : Except DomainError String :=
  if Git.isHash revision then .ok revision else Git.qualifyBranch revision

/-- The base of a valid request: a blank one stays as it is. -/
def qualifiedBase (base : String) : Except DomainError String :=
  if Text.allBlank base then .ok base else qualified base

/-- The request if it is **valid**, with head and base under their full names. -/
def validated (r : SubmissionRequest) : Except DomainError SubmissionRequest := do
  if !r.manual && !Repository.isName r.parent then
    throw (.invalidInput ("parent " ++ Text.quoted r.parent ++ " is invalid"))
  if r.all && !r.manual then
    throw (.invalidInput "hook-triggered submissions may not force all")
  if !Repository.isName r.fork then
    throw (.invalidInput ("fork " ++ Text.quoted r.fork ++ " is invalid"))
  if Text.allBlank r.head then
    throw (.invalidInput "head is empty")
  let head ← qualified r.head
  if Text.allBlank r.base && !r.manual then
    throw (.invalidInput "base is empty")
  let base ← qualifiedBase r.base
  return { r with head, base }

/-- The request as a record. -/
def toJson (r : SubmissionRequest) : Json :=
  .object [("parent", .text r.parent), ("fork", .text r.fork), ("head", .text r.head),
    ("base", .text r.base), ("pull_request_id", .ofOption (fun n => .int n.toInt) r.pullRequest),
    ("submitted_by", .ofOption .text r.submittedBy), ("all", .bool r.all),
    ("manual", .bool r.manual)]

/-- The names of the fields in their order. -/
def fieldNames : List String :=
  ["parent", "fork", "head", "base", "pull_request_id", "submitted_by", "all", "manual"]

/-- Reads a request; only the fork and the head must be there. -/
def ofJson? (j : Json) : Option SubmissionRequest := do
  let m ← j.members? fieldNames
  return {
    parent := ← m.defaulted "parent" "" Json.string?
    fork := ← m.required "fork" Json.string?
    head := ← m.required "head" Json.string?
    base := ← m.defaulted "base" "" Json.string?
    pullRequest := ← m.defaulted "pull_request_id" none (Json.nullable? Json.int64?)
    submittedBy := ← m.defaulted "submitted_by" none (Json.nullable? Json.string?)
    all := ← m.defaulted "all" false Json.bool?
    manual := ← m.defaulted "manual" false Json.bool? }

end SubmissionRequest

end Dispatch
