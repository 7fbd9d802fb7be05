import Dispatch.Json.Value
import Dispatch.Operation.Error
import Dispatch.Text.Segments

/-!
# Requests and answers of the interface

## Main definitions

* `Api.Request`: a request.
* `Api.Answer`: the answer to a request.
-/

namespace Dispatch.Api

/-- A **request** to the interface. -/
structure Request where
  method : String
  /-- The part of the address before the question mark, as it was sent. -/
  path : String
  /-- The part of the address after the question mark, as it was sent. -/
  query : String
  contentType : Option String
  body : String

namespace Request

/-- A request for an address, of which anything after a number sign does not count. -/
def ofTarget (method target : String) (contentType : Option String) (body : String) : Request :=
  let address := target.toList.takeWhile (· ≠ '#')
  { method
    path := String.ofList (address.takeWhile (· ≠ '?'))
    query := String.ofList ((address.dropWhile (· ≠ '?')).drop 1)
    contentType
    body }

/-- The segments of the path. -/
def segments (r : Request) : List String := (Text.segments r.path.toList).map String.ofList

end Request

/-- An **answer**: a status code, and a body if there is one in JSON. -/
structure Answer where
  status : Nat
  body : Option Json

namespace Answer

/-- An answer without a body in JSON. -/
def bare (status : Nat) : Answer := ⟨status, none⟩

/-- The answer that reports an error. -/
def ofError (e : OperationError) : Answer :=
  ⟨e.kind.statusCode, some (.object [("error", .text e.message)])⟩

/-- The answer without its body. -/
def headOnly (a : Answer) : Answer := { a with body := none }

end Answer

end Dispatch.Api
