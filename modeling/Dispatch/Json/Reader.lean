import Dispatch.Json.Token
import Dispatch.Json.Value

/-!
# Reading JSON

A JSON text is read element by element with the arrays and objects that are still open kept on a
stack. A text that breaks off or goes wrong still yields what had been read by then, because
whoever expects a certain shape may find fault with an early part before reading on.

## Main definitions

* `Json.Reading`: what was read and how far it went.
* `Json.read`: reading a text.
* `Json.parse?`: the value of a text that is JSON from beginning to end.
-/

namespace Dispatch.Json

/-- An array or object that is still **open**, with what it holds so far, newest first. -/
inductive Open where
  | array (items : List Json)
  | object (members : List (String × Json))
  | member (members : List (String × Json)) (name : String)

/-- What the next element may be. -/
inductive Expected where
  | value
  | firstItem
  | firstName
  | name
  | colon
  | more
deriving DecidableEq

/-- How far the elements read so far have come: a whole value, or open arrays and objects,
innermost first, and what may come next. -/
inductive Progress where
  | whole (value : Json)
  | within (stack : List Open) (expected : Expected)

/-- What was **read** of a text: the value, as far as it goes, whether all of it is there, and
whether nothing follows it. -/
structure Reading where
  value : Option Json
  closed : Bool
  ended : Bool

/-- How many arrays and objects may be open at once. -/
def maxDepth : Nat := 127

/-- The value that the open arrays and objects make with the innermost one's last item. -/
def collapse (inner : Option Json) : List Open → Option Json
  | [] => inner
  | .array items :: rest => collapse (some (.array (inner.toList ++ items).reverse)) rest
  | .object members :: rest => collapse (some (.object members.reverse)) rest
  | .member members name :: rest =>
    collapse (some (.object ((inner.toList.map fun v => (name, v)) ++ members).reverse)) rest

/-- The progress after a whole value within the open arrays and objects. -/
def accept (v : Json) : List Open → Progress
  | [] => .whole v
  | .array items :: rest => .within (.array (v :: items) :: rest) .more
  | .member members name :: rest => .within (.object ((name, v) :: members) :: rest) .more
  | .object members :: rest => .within (.object members :: rest) .more

/-- An element that begins a value. -/
def beginValue (stack : List Open) : Token → Option Progress
  | .openArray =>
    if stack.length < maxDepth then some (.within (.array [] :: stack) .firstItem) else none
  | .openObject =>
    if stack.length < maxDepth then some (.within (.object [] :: stack) .firstName) else none
  | .text s => some (accept (.text s) stack)
  | .int n => some (accept (.int n) stack)
  | .float x => some (accept (.float x) stack)
  | .bool b => some (accept (.bool b) stack)
  | .null => some (accept .null stack)
  | _ => none

/-- An element that closes the innermost array or object. -/
def close : List Open → Token → Option Progress
  | .array items :: rest, .closeArray => some (accept (.array items.reverse) rest)
  | .object members :: rest, .closeObject => some (accept (.object members.reverse) rest)
  | _, _ => none

/-- An element that names a member of the innermost object. -/
def beginMember : List Open → Token → Option Progress
  | .object members :: rest, .text s => some (.within (.member members s :: rest) .colon)
  | _, _ => none

/-- A comma, after which an item or a member must follow. -/
def continue? : List Open → Token → Option Progress
  | .array items :: rest, .comma => some (.within (.array items :: rest) .value)
  | .object members :: rest, .comma => some (.within (.object members :: rest) .name)
  | _, _ => none

/-- One element more, or `none` if it may not stand there. -/
def advance (token : Token) : Progress → Option Progress
  | .whole _ => none
  | .within stack .value => beginValue stack token
  | .within stack .firstItem => (close stack token).or (beginValue stack token)
  | .within stack .firstName => (close stack token).or (beginMember stack token)
  | .within stack .name => beginMember stack token
  | .within stack .colon => if token matches .colon then some (.within stack .value) else none
  | .within stack .more => (close stack token).or (continue? stack token)

/-- What was read when reading stops, either at the end of the text or before. -/
def Progress.reading (ended : Bool) : Progress → Reading
  | .whole v => ⟨some v, true, ended⟩
  | .within stack _ => ⟨collapse none stack, false, false⟩

/-- Reads elements until one may not stand where it stands. -/
def readTokens (progress : Progress) (ended : Bool) : List Token → Reading
  | [] => progress.reading ended
  | token :: tokens =>
    match advance token progress with
    | some progress => readTokens progress ended tokens
    | none => progress.reading false

/-- **Reads** a text. -/
def read (s : String) : Reading :=
  let (elements, ended) := tokens s.toList
  readTokens (.within [] .value) ended elements

/-- The value of a text that is JSON from beginning to end. -/
def parse? (s : String) : Option Json :=
  match read s with
  | ⟨some v, true, true⟩ => some v
  | _ => none

end Dispatch.Json
