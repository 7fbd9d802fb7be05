import Dispatch.Error
import Dispatch.Text.Quoted

/-!
# Errors in declarations

What can be wrong with a task declaration or with the configuration of a repository.

## Main definitions

* `ConfigError`: the causes.
* `ConfigError.message`: their wording.
* `ConfigError.chain`: the wording of an error and of the errors that it stems from.
-/

namespace Dispatch

/-- A **configuration error** says what is wrong and where. -/
inductive ConfigError where
  /-- The text is no document. -/
  | unreadable
  | missingField (what : String)
  | invalidValue (field reason : String)
  | unknownField (field : String)
  | duplicate (what : String)
  | invalidReference (reason : String)
  | cycle (edge : String)
  /-- A run asks for privileges that the repository does not grant. -/
  | privilegedDenied (run : String)
  /-- The declaration is complete but breaks a rule of the domain. -/
  | invalid (cause : DomainError)
deriving DecidableEq, Repr

namespace ConfigError

/-- Why a text is unreadable. -/
def unreadableReason : String := "Failed to parse KDL document"

/-- The wording of a configuration error. -/
def message : ConfigError → String
  | unreadable => "KDL parse error: " ++ unreadableReason
  | missingField what => "missing required field: " ++ what
  | invalidValue field reason => "invalid value for " ++ field ++ ": " ++ reason
  | unknownField field => "unknown field: " ++ field
  | duplicate what => "duplicate definition: " ++ what
  | invalidReference reason => "invalid reference: " ++ reason
  | cycle edge => "cycle detected in dependencies: " ++ edge
  | privilegedDenied run =>
    "privileged run " ++ Text.quoted run ++ " is not allowed by the repository configuration"
  | invalid cause => "validation error: " ++ cause.message

/-- The errors that a configuration error stems from, the nearest first. -/
def causes : ConfigError → List String
  | unreadable => [unreadableReason]
  | invalid cause => [cause.message]
  | _ => []

/-- The wording of an error followed by the errors that it stems from. -/
def chain (e : ConfigError) : List String := e.message :: e.causes

end ConfigError

end Dispatch
