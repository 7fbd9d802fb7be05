import Dispatch.Store.Queue
import Dispatch.Store.Record
import Dispatch.Store.Work

/-!
# Calls to the store

The operations of the store as values, so that whoever carries a program out can decide what
becomes of each of them. Each operation takes effect at once and as a whole.

## Main definitions

* `StoreCall`: the operations with their arguments.
* `StoreCall.Reply`: the type of what an operation answers with.
* `StoreCall.run`: what an operation does.
-/

namespace Dispatch

/-- A **call** to the store. -/
inductive StoreCall where
  | createUser (username token : String)
  | getUser (id : Id)
  | getUserNamed (username : String)
  | createRepository (new : NewRepository)
  | getRepository (id : Id)
  | getRepositoryNamed (name : String)
  | getRef (id : Id)
  | getRefFor (repository : Id) (sha : String)
  | findOrCreateRef (repository : Id) (name sha : String)
  | createSubmission (new : NewSubmission)
  | getSubmission (id : Id)
  | createTask (new : NewTask)
  | getTask (id : Id)
  | listTasks (submission : Id)
  | openForRef (repository : Id) (name : String)
  | openForPullRequest (repository : String) (pullRequest : Int64)
  | getTarget (task : Id)
  | cancelTask (task : Id)
  | createRun (new : NewRun)
  | getRun (id : Id)
  | listRuns (task : Id)
  | finishRun (run : Id) (status : Bool)
  | enqueue (batch : List NewQueueItem)
  | dequeue (queue worker : String)
  | listQueue (page : Page)
  | listQueueOf (repository : Id) (page : Page)
  | countQueue
  | countQueueOf (repository : Id)

namespace StoreCall

/-- What a call is **answered** with. -/
abbrev Reply : StoreCall → Type
  | createUser _ _ | getUser _ | getUserNamed _ => User
  | createRepository _ | getRepository _ | getRepositoryNamed _ => Repository
  | getRef _ | getRefFor _ _ | findOrCreateRef _ _ _ => Ref
  | createSubmission _ | getSubmission _ => Submission
  | createTask _ | getTask _ => Task
  | listTasks _ | openForRef _ _ | openForPullRequest _ _ => List Task
  | getTarget _ => TaskTarget
  | cancelTask _ | listRuns _ => List Run
  | createRun _ | getRun _ => Run
  | finishRun _ _ => RunCompletion
  | enqueue _ => List QueueItem
  -- The store breaks down over a page whose offset it cannot compute.
  | listQueue _ | listQueueOf _ _ => Option (List QueueItem)
  | dequeue _ _ => QueueItem
  | countQueue | countQueueOf _ => Nat

/-- What a call **does** at a given time. -/
def run (now : Timestamp) : (call : StoreCall) → StoreM call.Reply
  | createUser username token => Store.createUser now username token
  | getUser id => Store.look (·.user id)
  | getUserNamed username => Store.look (·.userNamed username)
  | createRepository new => Store.createRepository now new
  | getRepository id => Store.look (·.repository id)
  | getRepositoryNamed name => Store.look (·.repositoryNamed name)
  | getRef id => Store.look (·.ref id)
  | getRefFor repository sha => Store.look (·.refFor repository sha)
  | findOrCreateRef repository name sha => Store.findOrCreateRef repository name sha
  | createSubmission new => Store.createSubmission now new
  | getSubmission id => Store.look (·.submission id)
  | createTask new => Store.createTask now new
  | getTask id => Store.look (·.task id)
  | listTasks submission => Store.look fun s => .ok (s.tasksByPath submission)
  | openForRef repository name => Store.look fun s => .ok (s.openForRef repository name)
  | openForPullRequest repository pullRequest =>
    Store.look fun s => .ok (s.openForPullRequest repository pullRequest)
  | getTarget task => Store.look (·.target task)
  | cancelTask task => Store.cancelTask now task
  | createRun new => Store.createRun now new
  | getRun id => Store.look (·.run id)
  | listRuns task => Store.look fun s => .ok (s.runsByName task)
  | finishRun run status => Store.finishRun now run status
  | enqueue batch => Store.enqueue batch
  | dequeue queue worker => Store.dequeue now queue worker
  | listQueue page => Store.look (·.page none page)
  | listQueueOf repository page => Store.look (·.page (some repository) page)
  | countQueue => Store.look fun s => .ok (s.countItems none)
  | countQueueOf repository => Store.look fun s => .ok (s.countItems (some repository))

end StoreCall

end Dispatch
