import Dispatch.Git.Ref
import Dispatch.Repository.Basic

/-!
# Submissions

A submission is a processed request: which commit is tested against which.

## Main definitions

* `Submission`: a submission as it is shown, with its refs and with counts of its work.
* `Submission.tested`: the ref under test.
-/

namespace Dispatch

/-- A **submission** as it is shown. -/
structure Submission where
  id : Id
  base : Ref
  /-- Absent when the head is the base. -/
  head : Option Ref
  submittedBy : Option Id
  ticket : Option Int64
  createdAt : Timestamp
  tasks : Nat
  runs : Nat

/-- What is needed to record a submission. -/
structure NewSubmission where
  base : Id
  head : Option Id
  submittedBy : Option Id
  ticket : Option Int64

namespace Submission

/-- The ref **under test**: the head, or the base if there is no head. -/
def tested (s : Submission) : Ref := s.head.getD s.base

/-- The submission as a record. -/
def toJson (stamp : Timestamp → Json) (s : Submission) : Json :=
  .object [("id", s.id.toJson), ("base_ref", s.base.toJson),
    ("head_ref", .ofOption Ref.toJson s.head),
    ("submitted_by", .ofOption Id.toJson s.submittedBy),
    ("ticket_id", .ofOption (fun n => .int n.toInt) s.ticket),
    ("created_at", stamp s.createdAt), ("tasks_count", .int s.tasks),
    ("runs_count", .int s.runs)]

end Submission

end Dispatch
