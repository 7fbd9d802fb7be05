import Dispatch.Store.Basic

/-!
# The queue in the store

All queues share one sequence of positions. A worker claims the item of a queue with the lowest
position that no worker has claimed yet.

## Main definitions

* `Store.enqueue`: puts a batch of runs on queues, all or none.
* `Store.dequeue`: claims an item.
* `Store.page`, `Store.countItems`: listing and counting items.
-/

namespace Dispatch.Store

/-! ### Adding items -/

/-- Checks the items of a **batch** one after the other, given the runs of the earlier ones: each
needs a queue and a run that is not on a queue. -/
def checkBatch (s : Store) : (earlier : List Id) → List NewQueueItem → Except StoreError Unit
  | _, [] => .ok ()
  | earlier, item :: rest => do
    match QueueItem.validateQueue item.queue with
    | .error cause => throw (.invalid cause)
    | .ok _ =>
      let _ ← s.run item.run
      if s.queue.any (·.run = item.run) || earlier.contains item.run then
        throw (.duplicate ("queue item for run " ++ item.run.text))
      checkBatch s (item.run :: earlier) rest

/-- The next item on the queue. -/
def nextItem (s : Store) (new : NewQueueItem) : StoredItem where
  id := .issued .queueItem (s.nextPosition + 1)
  run := new.run
  queue := new.queue
  running := false
  runningOn := none
  startedAt := none
  position := s.nextPosition

/-- Puts one run on a queue. -/
def enqueueOne (new : NewQueueItem) : StoreM QueueItem := do
  let s ← get
  let item := s.nextItem new
  let shown ← look (·.queueItem item)
  set { s with queue := s.queue ++ [item], nextPosition := s.nextPosition + 1 }
  return shown

/-- Puts a **batch** of runs on queues, all or none of them. -/
def enqueue (batch : List NewQueueItem) : StoreM (List QueueItem) := do
  look (·.checkBatch [] batch)
  batch.mapM enqueueOne

/-! ### Claiming items -/

/-- The first item that waits on a queue. -/
def waiting? (s : Store) (queue : String) : Option StoredItem :=
  s.queue.find? fun i => i.queue = queue && !i.running

/-- An item that a worker has claimed. -/
def claim (now : Timestamp) (worker : String) (i : StoredItem) : StoredItem :=
  { i with running := true, runningOn := some worker, startedAt := some now }

/-- A run that has started. -/
def startRun (now : Timestamp) (r : Run) : Run := { r with startedAt := some now }

/-- A task that has started, unless it had started before. -/
def startTask (now : Timestamp) (t : Task) : Task :=
  { t with startedAt := t.startedAt.or (some now) }

/-- **Claims** the first item that waits on a queue, for a worker. Its run starts, and its task
if it has not started yet. -/
def dequeue (now : Timestamp) (queue worker : String) : StoreM QueueItem := do
  let s ← get
  match s.waiting? queue with
  | none => throw (.notFound ("no queue items waiting on " ++ queue))
  | some item =>
    set (s.changeItem item.position (claim now worker))
    match s.run? item.run with
    | none => throw (.invalidData ("queue item for missing run " ++ item.run.text))
    | some run =>
      modify fun s => (s.changeRun run.id (startRun now)).changeTask run.task (startTask now)
      look (·.queueItem (claim now worker item))

/-! ### Listing items -/

/-- The items on the queue, of all repositories or of one. -/
def items (s : Store) (repository : Option Id) : List StoredItem :=
  match repository with
  | none => s.queue
  | some id => s.queue.filter fun i => s.repositoryOfRun? i.run = some id

/-- A **page** of the queue, of all repositories or of one. There is none where the offset of the
page cannot be computed. -/
def page (s : Store) (repository : Option Id) (p : Page) :
    Except StoreError (Option (List QueueItem)) :=
  (p.select (s.items repository)).mapM (·.mapM s.queueItem)

/-- How many items are on the queue, of all repositories or of one. -/
def countItems (s : Store) (repository : Option Id) : Nat := (s.items repository).length

end Dispatch.Store
