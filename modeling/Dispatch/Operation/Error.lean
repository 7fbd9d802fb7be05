import Dispatch.Config.Error
import Dispatch.Host.Error
import Dispatch.Store.Error

/-!
# Errors of operations

An operation goes through several stages. Its error names the stages that failed, from the
outside in, before the cause: `managing head ref: not found: ref …`.

## Main definitions

* `OperationError`: a cause with the stages in which it arose.
* `OperationError.message`: the wording.
* `OperationError.kind`: the coarse classification that callers act on.
-/

namespace Dispatch

/-- The innermost **cause** of an error. -/
inductive Cause where
  | domain (error : DomainError)
  | store (error : StoreError)
  | config (error : ConfigError)
  | host (error : HostError)
deriving DecidableEq

/-- The coarse **classification** of errors. -/
inductive ErrorKind where
  /-- There is no such record, or the queue is empty; asking again later may help. -/
  | notFound
  | invalid
  | forbidden
  /-- Something that can happen only once has happened already. -/
  | conflict
  | internal
deriving DecidableEq, Repr

namespace ErrorKind

/-- The status code of an answer that reports an error of this kind. -/
def statusCode : ErrorKind → Nat
  | notFound => 404
  | invalid => 400
  | forbidden => 403
  | conflict => 409
  | internal => 500

/-- The kind of a domain error. -/
def ofDomain : DomainError → ErrorKind
  | .notFound _ => notFound
  | .invalidInput _ => invalid
  | .forbidden _ => forbidden
  | .conflict _ => conflict
  | .internal _ => internal

/-- The kind of a failure of the store. -/
def ofStore : StoreError → ErrorKind
  | .invalid cause => ofDomain cause
  | .notFound _ => notFound
  | .missingRow => notFound
  | .conflict _ => conflict
  | .duplicate _ => conflict
  | .invalidData _ => internal

/-- The kind of a failure of the code host. -/
def ofHost (e : HostError) : ErrorKind :=
  if e.isNotFound then notFound
  else match e with
    | .invalid _ => invalid
    | _ => internal

end ErrorKind

namespace Cause

/-- The wording of a cause. -/
def message : Cause → String
  | domain e => e.message
  | store e => e.message
  | config e => e.message
  | host e => e.message

/-- The kind of a cause. -/
def kind : Cause → ErrorKind
  | domain e => .ofDomain e
  | store e => .ofStore e
  | config _ => .invalid
  | host e => .ofHost e

end Cause

/-- An **error of an operation**: a cause and the stages around it. -/
structure OperationError where
  cause : Cause
  /-- Innermost first. -/
  stages : List String
deriving DecidableEq

namespace OperationError

/-- A cause outside of any stage. -/
def ofCause (c : Cause) : OperationError := ⟨c, []⟩

instance : Coe DomainError OperationError := ⟨fun e => .ofCause (.domain e)⟩
instance : Coe StoreError OperationError := ⟨fun e => .ofCause (.store e)⟩
instance : Coe ConfigError OperationError := ⟨fun e => .ofCause (.config e)⟩
instance : Coe HostError OperationError := ⟨fun e => .ofCause (.host e)⟩

/-- The error in a further stage around it. -/
def inStage (e : OperationError) (stage : String) : OperationError :=
  { e with stages := e.stages ++ [stage] }

/-- The **wording**: the stages from the outside in, and the cause. -/
def message (e : OperationError) : String :=
  e.stages.foldl (fun inner stage => stage ++ ": " ++ inner) e.cause.message

/-- The **kind** of an error is that of its cause, whatever the stages. -/
def kind (e : OperationError) : ErrorKind := e.cause.kind

/-- There is no such record. -/
def isNotFound (e : OperationError) : Bool := e.kind = .notFound

/-- Something that can happen only once has happened already. -/
def isConflict (e : OperationError) : Bool := e.kind = .conflict

end OperationError

end Dispatch
