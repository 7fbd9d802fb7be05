/-!
# Errors of the domain

The ways in which a request can be at odds with the rules of the domain, whatever layer notices.

## Main definitions

* `DomainError`: the causes.
* `DomainError.message`: their wording.
-/

namespace Dispatch

/-- A **domain error** names its cause and says what it is about. -/
inductive DomainError where
  | notFound (subject : String)
  | invalidInput (reason : String)
  | forbidden (reason : String)
  | conflict (reason : String)
  | internal (reason : String)
deriving DecidableEq, Repr

namespace DomainError

/-- The wording of a domain error. -/
def message : DomainError → String
  | notFound subject => "not found: " ++ subject
  | invalidInput reason => "invalid input: " ++ reason
  | forbidden reason => "forbidden: " ++ reason
  | conflict reason => "conflict: " ++ reason
  | internal reason => "internal error: " ++ reason

end DomainError

end Dispatch
