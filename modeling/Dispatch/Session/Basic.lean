import Dispatch.Host.Script
import Dispatch.Notification.Channel
import Dispatch.Operation.Basic
import Dispatch.Store.Fault

/-!
# Sessions

A session is a dispatcher at work: its store, a scripted code host, and the channel on which
notifications wait for the worker. It goes on in steps, and the number of the step is the time.

## Main definitions

* `Session`: the state of a dispatcher at work.
* `Session.surroundings`: how a session answers the calls of a program.
* `Session.perform`, `Session.drain`: carrying out an operation, and delivering notifications.
-/

namespace Dispatch

/-- A dispatcher at **work**. -/
structure Session where
  /-- The number of the current step. -/
  step : Nat
  store : Store
  /-- What fails in the store. -/
  faults : List StoreFault
  host : HostScript
  /-- The calls to the code host since the step began, newest first. -/
  calls : List Json
  channel : Channel
  /-- The dispatcher has not been shut down. -/
  running : Bool

namespace Session

/-- A session at its beginning, with an empty store. -/
def new (host : HostScript) (buffer : Nat) (faults : List StoreFault) : Session where
  step := 0
  store := .empty
  faults := faults
  host := host
  calls := []
  channel := .new buffer
  running := true

/-- The time in the current step. -/
def now (s : Session) : Timestamp := .startOfYear s.step

/-- The session at the beginning of the next step. -/
def nextStep (s : Session) : Session := { s with step := s.step + 1, calls := [] }

/-! ### Calls -/

/-- A call to the store that takes effect whatever is to fail. -/
def callStore (call : StoreCall) (s : Session) : Except StoreError call.Reply × Session :=
  let (reply, store) := call.run s.now s.store
  (reply, { s with store })

/-- A call to the store. -/
def answerStore (call : StoreCall) (s : Session) : Except StoreError call.Reply × Session :=
  match StoreFault.strike call s.faults with
  | (some e, faults) => (.error e, { s with faults })
  | (none, faults) => callStore call { s with faults }

/-- A call to the code host, which is recorded. -/
def answerHost (token : String) (call : HostCall) (s : Session) :
    Except HostError call.Reply × Session :=
  let (reply, host) := s.host.answer call
  (reply, { s with host, calls := call.record token :: s.calls })

/-- How a session **answers** the calls of a program. -/
def surroundings : Surroundings Session where
  store := answerStore
  host := answerHost
  notify n s := { s with channel := s.channel.offer n }

/-! ### Steps -/

/-- A limit that loading declarations never reaches: each directory that is loaded has a file of
its own in the script, and loading ends with the first that has none. -/
def directoryLimit (s : Session) : Nat := s.host.files.length + 1

/-- **Carries out** an operation. -/
def perform {α : Type} (op : Operation α) (s : Session) :
    Option (Except OperationError α × Session) :=
  op.run.run surroundings s

/-- **Delivers** the given notifications one after the other; whether they can be posted makes no
difference. -/
def deliver (address : PublicAddress) : List Notification → Session → Session
  | [], s => s
  | n :: rest, s =>
    let call := HostCall.postStatus n.repository n.sha (n.report.status address)
    deliver address rest (answerHost n.token call s).2

/-- Delivers **all that waits**; answers with how many notifications these were. -/
def drain (address : PublicAddress) (s : Session) : Nat × Session :=
  let waiting := s.channel.waiting
  (waiting.length, deliver address waiting { s with channel.waiting := [] })

/-- The session without the worker; what was waiting is lost. -/
def dropWorker (s : Session) : Session := { s with channel := s.channel.abandon }

/-- The session after it was shut down. The worker still delivers what was waiting. -/
def shutDown (address : PublicAddress) (s : Session) : Session :=
  let (_, s) := s.drain address
  { s.dropWorker with running := false }

end Session

end Dispatch
