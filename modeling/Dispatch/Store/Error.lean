import Dispatch.Error

/-!
# Errors of the store

## Main definitions

* `StoreError`: how an operation of the store can fail.
* `StoreError.message`: the wording.
* `StoreError.isNotFound`: the failures that mean a record does not exist.
-/

namespace Dispatch

/-- A **failure of the store**. -/
inductive StoreError where
  | notFound (subject : String)
  | duplicate (subject : String)
  /-- Something that is set only once was set already. -/
  | conflict (reason : String)
  | invalidData (reason : String)
  /-- What was to be stored breaks a rule of the domain. -/
  | invalid (cause : DomainError)
  /-- The database had no row where there has to be one. -/
  | missingRow
deriving DecidableEq, Repr

namespace StoreError

/-- The wording of the error below a missing row. -/
def missingRowReason : String :=
  "no rows returned by a query that expected to return at least one row"

/-- The wording of a failure. -/
def message : StoreError → String
  | notFound subject => "not found: " ++ subject
  | duplicate subject => "duplicate: " ++ subject
  | conflict reason => "conflict: " ++ reason
  | invalidData reason => "invalid data: " ++ reason
  | invalid cause => "validation error: " ++ cause.message
  | missingRow => "database error: " ++ missingRowReason

/-- The record does not exist. -/
def isNotFound : StoreError → Bool
  | notFound _ => true
  | invalid (.notFound _) => true
  | missingRow => true
  | _ => false

end StoreError

end Dispatch
