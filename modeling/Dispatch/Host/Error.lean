import Dispatch.Decimal.Integer

/-!
# Errors of the code host

## Main definitions

* `HostError`: how a request to the code host can fail.
* `HostError.isNotFound`: the failures that mean the thing asked for does not exist.
-/

namespace Dispatch

/-- A **failure of the code host** to answer. -/
inductive HostError where
  | notFound (subject : String)
  | invalid (reason : String)
  /-- The request did not reach the host or the answer did not come back. -/
  | request (reason : String)
  | api (status : UInt16) (message : String)
  /-- The answer could not be understood. -/
  | parse (reason : String)
deriving DecidableEq, Repr

namespace HostError

/-- The wording of a failure. -/
def message : HostError → String
  | notFound subject => "not found: " ++ subject
  | invalid reason => "invalid request: " ++ reason
  | request reason => "request failed: " ++ reason
  | api status message =>
    "code host returned " ++ Decimal.ofNat status.toNat ++ ": " ++ message
  | parse reason => "failed to parse response: " ++ reason

/-- The thing asked for does not exist. -/
def isNotFound : HostError → Bool
  | notFound _ => true
  | api status _ => status = 404
  | _ => false

end HostError

end Dispatch
