import Dispatch.Notification.Basic

/-!
# The channel to the code host

Notifications wait in the order in which they were handed over until the worker delivers them.
A channel that is full, or that has lost its worker, drops what is handed over.

## Main definitions

* `Channel`: the waiting notifications and whether there is a worker.
* `Channel.offer`: hands a notification over.
* `Channel.take?`: what the worker delivers next.
-/

namespace Dispatch

/-- The **channel** between those who report and the worker who delivers. -/
structure Channel where
  capacity : Nat
  /-- Oldest first. -/
  waiting : List Notification
  /-- There is a worker. -/
  attended : Bool

namespace Channel

/-- An empty channel for the given number of notifications, but for one at least. -/
def new (buffer : Nat) : Channel := ⟨max 1 buffer, [], true⟩

/-- A notification would be accepted. -/
def accepts (c : Channel) : Bool := c.attended && c.waiting.length < c.capacity

/-- The channel after a notification was **handed over**. -/
def offer (c : Channel) (n : Notification) : Channel :=
  if c.accepts then { c with waiting := c.waiting ++ [n] } else c

/-- The oldest notification and the channel without it. -/
def take? (c : Channel) : Option (Notification × Channel) :=
  match c.waiting with
  | [] => none
  | n :: rest => some (n, { c with waiting := rest })

/-- The channel after the worker has gone; what was waiting is lost. -/
def abandon (c : Channel) : Channel := { c with waiting := [], attended := false }

end Channel

end Dispatch
