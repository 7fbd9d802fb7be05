import Dispatch.Operation.Basic

/-!
# Cancellation

A task is canceled with all its open runs, because a worker gave up, because a newer submission
makes it pointless, or on demand.

## Main definitions

* `Cancellation.task`: cancels one task; all others end here.
* `Cancellation.run`, `Cancellation.ref`, `Cancellation.pullRequest`, `Cancellation.submission`:
  cancel the task or tasks of something.
-/

namespace Dispatch.Cancellation

open Operation

/-- The message of a run that was canceled. -/
def canceledMessage : String := "The run was canceled."

/-- The notification that a run was canceled. -/
def notice (target : TaskTarget) (owner : User) (run : Run) : Notification where
  token := owner.token
  repository := target.repository.name
  sha := target.sha
  report := .errored run.id run.name canceledMessage

/-- Cancels a **task** and answers with the runs that failed by it. Statuses are posted if the
task's repository has an owner. -/
def task (id : Id) : Operation (List Run) := do
  let runs ← store (.cancelTask id)
  match ← tryStore (.getTarget id) with
  | .ok target =>
    match target.owner with
    | some owner => runs.forM fun run => notify (notice target owner run)
    | none => pure ()
  | .error _ => pure ()
  return runs

/-- Cancels the task of a **run**. -/
def run (id : Id) : Operation (List Run) := do
  let run ← store (.getRun id)
  task run.task

/-- Cancels tasks one after the other and counts them, but not those that have ended in the
meantime. Any other failure ends the cancellation. -/
def tasks : List Task → Operation Nat
  | [] => return 0
  | t :: rest => do
    match ← attempt (task t.id) with
    | .ok _ => return (← tasks rest) + 1
    | .error e => if e.isConflict then tasks rest else fail e

/-- Cancels the unfinished work for a **ref** of a repository, unless it is the default branch.
Answers with how many tasks were canceled. -/
def ref (repository : Id) (name defaultBranch : String) : Operation Nat := do
  if name = defaultBranch then return 0
  tasks (← store (.openForRef repository name))

/-- Cancels those of the tasks that have a repository with an owner. -/
def ownedTasks : List Task → Operation Nat
  | [] => return 0
  | t :: rest => do
    let target ← store (.getTarget t.id)
    if target.owner.isNone then ownedTasks rest
    else
      match ← attempt (task t.id) with
      | .ok _ => return (← ownedTasks rest) + 1
      | .error e => if e.isConflict then ownedTasks rest else fail e

/-- Cancels the unfinished work for a **pull request** against a repository. -/
def pullRequest (repository : String) (number : Int64) : Operation Nat := do
  ownedTasks (← store (.openForPullRequest repository number))

/-- Cancels as many of the tasks as can be canceled. -/
def whateverPossible : List Task → Operation Nat
  | [] => return 0
  | t :: rest => do
    match ← attempt (task t.id) with
    | .ok _ => return (← whateverPossible rest) + 1
    | .error _ => whateverPossible rest

/-- Cancels the unfinished tasks of a **submission**; one that cannot be canceled does not keep
the others from it. -/
def submission (id : Id) : Operation Nat := do
  let _ ← store (.getSubmission id)
  let all ← store (.listTasks id)
  whateverPossible (all.filter fun t => !t.isFinished)

end Dispatch.Cancellation
