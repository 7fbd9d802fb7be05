import Dispatch.Store.Call

/-!
# Failures of the store

Calls to the store can be made to fail before they take effect, to try the dispatcher out on.

## Main definitions

* `StoreFault`: a failure of some calls.
* `StoreFault.strike`: the failure of a call, if there is one, and what fails later.
-/

namespace Dispatch

namespace StoreCall

/-- The **name** of a call. -/
def name : StoreCall → String
  | createUser _ _ => "users.create"
  | getUser _ => "users.get"
  | getUserNamed _ => "users.get_by_username"
  | createRepository _ => "repositories.create"
  | getRepository _ => "repositories.get"
  | getRepositoryNamed _ => "repositories.get_by_name"
  | getRef _ => "refs.get"
  | getRefFor _ _ => "refs.get_by_sha"
  | findOrCreateRef _ _ _ => "refs.find_or_create"
  | createSubmission _ => "submissions.create"
  | getSubmission _ => "submissions.get"
  | createTask _ => "tasks.create"
  | getTask _ => "tasks.get"
  | listTasks _ => "tasks.list_for_submission"
  | openForRef _ _ => "tasks.open_for_head_ref"
  | openForPullRequest _ _ => "tasks.open_for_pull_request"
  | getTarget _ => "tasks.target"
  | cancelTask _ => "tasks.cancel"
  | createRun _ => "runs.create"
  | getRun _ => "runs.get"
  | listRuns _ => "runs.list_for_task"
  | finishRun _ _ => "runs.finish"
  | enqueue _ => "queue.enqueue"
  | dequeue _ _ => "queue.dequeue"
  | listQueue _ => "queue.list"
  | listQueueOf _ _ => "queue.list_for_repository"
  | countQueue => "queue.count"
  | countQueueOf _ => "queue.count_for_repository"

/-- The text that a call is about, if it is about one. -/
def subject? : StoreCall → Option String
  | createUser username _ | getUserNamed username => some username
  | createRepository new => some new.name
  | getRepositoryNamed name => some name
  | getRefFor _ sha | findOrCreateRef _ _ sha => some sha
  | createTask new => some new.path
  | createRun new => some new.name
  | openForRef _ name => some name
  | openForPullRequest repository _ => some repository
  | dequeue queue _ => some queue
  | _ => none

end StoreCall

/-- A **failure** of some calls to the store. -/
structure StoreFault where
  call : String
  /-- Only calls about this text fail. -/
  subject : Option String
  /-- How many calls are let by first. -/
  skip : Nat
  /-- How often it still happens; without a number it always does. -/
  times : Option Nat
  error : StoreError

namespace StoreFault

/-- The failure is about the call. -/
def concerns (f : StoreFault) (call : StoreCall) : Bool :=
  f.call = call.name && (f.subject.isNone || f.subject = call.subject?)

/-- The first **failure** of a call, if there is one, and the failures that remain. A failure that
lets a call by leaves it to the failures after it. -/
def strike (call : StoreCall) : List StoreFault → Option StoreError × List StoreFault
  | [] => (none, [])
  | f :: rest =>
    if f.concerns call && 0 < f.skip then
      let (e, rest) := strike call rest
      (e, { f with skip := f.skip - 1 } :: rest)
    else if f.concerns call && f.times ≠ some 0 then
      (some f.error, { f with times := f.times.map (· - 1) } :: rest)
    else
      let (e, rest) := strike call rest
      (e, f :: rest)

end StoreFault

end Dispatch
