import Dispatch.Host.Status
import Dispatch.Task.Run

/-!
# Notifications

What happens to a run is reported to the code host as a commit status. The report is handed over
as a notification, and whoever hands it over does not wait until it is posted.

## Main definitions

* `Report`: what has happened.
* `Notification`: a report with the commit that it is about and the credential to post it with.
* `Report.status`: the commit status that a report becomes.
-/

namespace Dispatch

/-- A **report** says what has happened to a run, or that none could be started. -/
inductive Report where
  | pending (run : Id) (name : String)
  | started (run : Id) (name : String)
  | errored (run : Id) (name : String) (message : String)
  | finished (run : Id) (name : String) (success : Bool) (message : String)
  | notStarted (message : String)
deriving DecidableEq

/-- A **notification** is a report on its way to the code host. -/
structure Notification where
  token : String
  repository : String
  sha : String
  report : Report
deriving DecidableEq

/-- The address under which the dispatcher is reachable, without slashes at its end. -/
structure PublicAddress where
  text : String

namespace PublicAddress

/-- The address with the slashes at its end dropped. -/
def ofText (s : String) : PublicAddress :=
  ⟨String.ofList (s.toList.reverse.dropWhile (· = '/')).reverse⟩

/-- The page that shows the log of a run. -/
def logPage (a : PublicAddress) (run : Id) : String := a.text ++ "/log/" ++ run.text

end PublicAddress

namespace Report

/-- The context of statuses that belong to no single run. -/
def globalContext : String := "*global*"

/-- The **commit status** that a report becomes. -/
def status (address : PublicAddress) : Report → CommitStatus
  | pending run name => .pending name (address.logPage run)
  | started run name => .started name (address.logPage run)
  | errored run name message => .errored name (address.logPage run) message
  | finished run name success message =>
    .finished name (address.logPage run) success message
  | notStarted message =>
    .finished globalContext address.text false ("failed to start job: " ++ message)

end Report

end Dispatch
