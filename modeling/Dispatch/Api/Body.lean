import Dispatch.Json.Reader
import Dispatch.Json.Record
import Dispatch.Web.MediaType

/-!
# Bodies of requests

A body is read from its beginning, and the first thing that is wrong with it decides: either it
is no JSON, or it is not the record that is asked for. So a field of the wrong type counts more
than a missing bracket after it.

## Main definitions

* `Body.Field`: a field of the record that is asked for.
* `Body.Refusal`: why a body is refused.
* `Body.read`: the record in a body.
-/

namespace Dispatch.Api.Body

/-- A **field** that a record can have, and the values that it accepts. -/
structure Field where
  name : String
  required : Bool
  accepts : Json → Bool

namespace Field

/-- A field for a text. -/
def text (name : String) (required : Bool) : Field := ⟨name, required, (·.string?.isSome)⟩

/-- A field for a truth value. -/
def flag (name : String) (required : Bool) : Field := ⟨name, required, (·.bool?.isSome)⟩

/-- A field for a whole number of 64 bits. -/
def number (name : String) (required : Bool) : Field := ⟨name, required, (·.int64?.isSome)⟩

/-- The field, which may also be null. -/
def orNull (f : Field) : Field := { f with accepts := fun j => j matches .null || f.accepts j }

end Field

/-- Why a body is **refused**. -/
inductive Refusal where
  /-- It is said to be something other than JSON. -/
  | unsupported
  /-- It is not JSON. -/
  | malformed
  /-- It is another record than the one asked for. -/
  | mismatched
deriving DecidableEq

namespace Refusal

/-- The status code for a refusal. -/
def statusCode : Refusal → Nat
  | unsupported => 415
  | malformed => 400
  | mismatched => 422

end Refusal

/-- What is wrong with the end of an object, given the names that it has. -/
def checkEnd (fields : List Field) (seen : List String) (closed ended : Bool) :
    Option Refusal :=
  if !closed then some .malformed
  else if fields.any fun f => f.required && !seen.contains f.name then some .mismatched
  else if !ended then some .malformed
  else none

/-- What is wrong with the members of an object, given the known names before them. -/
def checkMembers (fields : List Field) (closed ended : Bool) :
    (seen : List String) → List (String × Json) → Option Refusal
  | seen, [] => checkEnd fields seen closed ended
  | seen, (name, value) :: rest =>
    match fields.find? (·.name = name) with
    | none => checkMembers fields closed ended seen rest
    | some f =>
      if seen.contains name || !f.accepts value then some .mismatched
      else checkMembers fields closed ended (name :: seen) rest

/-- What is wrong with the items of an array, which are the fields in their order. -/
def checkItems (closed ended : Bool) : List Field → List Json → Option Refusal
  | [], [] => if closed && ended then none else some .malformed
  | [], _ :: _ => some .malformed
  | fields, [] => checkEnd fields [] closed ended
  | f :: fields, item :: items =>
    if f.accepts item then checkItems closed ended fields items else some .mismatched

/-- What is wrong with a body as far as it could be read. -/
def check (fields : List Field) (r : Json.Reading) : Option Refusal :=
  match r.value with
  | none => some .malformed
  | some (.object members) => checkMembers fields r.closed r.ended [] members
  | some (.array items) => checkItems r.closed r.ended fields items
  | some _ => some .mismatched

/-- The **record** in a body with a given content type. -/
def read {α : Type} (fields : List Field) (ofJson? : Json → Option α)
    (contentType : Option String) (body : String) : Except Refusal α :=
  if !contentType.any MediaType.isJson then .error .unsupported
  else
    let reading := Json.read body
    match check fields reading with
    | some refusal => .error refusal
    | none =>
      match reading.value.bind ofJson? with
      | some a => .ok a
      | none => .error .mismatched

end Dispatch.Api.Body
