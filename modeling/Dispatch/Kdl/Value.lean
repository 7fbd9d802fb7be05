import Dispatch.Decimal.Shortest
import Dispatch.Kdl.Character

/-!
# KDL values

## Main definitions

* `Kdl.Value`: the values that arguments and properties of a node have.
* `Kdl.Value.written`: a value as it is shown in a message.
-/

namespace Dispatch.Kdl

/-- A **value** of an argument or a property. -/
inductive Value where
  | text (value : String)
  | int (value : Int)
  | float (value : Binary64)
  | bool (value : Bool)
  | null
deriving DecidableEq

namespace Value

/-- Numbers are written positionally from `0.0001` up to but not including `1e16`. -/
def numberLayout : Decimal.Layout := ⟨-4, 16⟩

/-- A text begins like a number: with a digit, or with a point or a sign before a digit. -/
def startsLikeNumber : List Char → Bool
  | c :: rest =>
    Decimal.isDigit c ||
      ((c = '.' || c = '-' || c = '+') && (rest.head?.map Decimal.isDigit).getD false)
  | [] => false

/-- A text that can be written as a **bare word**. -/
def isBare (s : String) : Bool :=
  let cs := s.toList
  !cs.isEmpty && cs.all isWordChar && !startsLikeNumber cs && !reservedWords.contains s &&
    s != "-inf"

/-- A character within a quoted text. -/
def escapeChar (c : Char) : List Char :=
  if c = '\\' || c = '"' then ['\\', c]
  else if c = '\n' then ['\\', 'n']
  else if c = '\r' then ['\\', 'r']
  else if c = '\t' then ['\\', 't']
  else if c = '\x08' then ['\\', 'b']
  else if c = '\x0c' then ['\\', 'f']
  else [c]

/-- A value as it is **written** in a document. -/
def written : Value → String
  | text s =>
    if isBare s then s else String.ofList ('"' :: s.toList.flatMap escapeChar ++ ['"'])
  | int n => Decimal.ofInt n
  | float .nan => "#nan"
  | float (.infinite negative) => if negative then "#-inf" else "#inf"
  | float (.finite negative m q) => String.ofList (numberLayout.text negative m q)
  | bool true => "#true"
  | bool false => "#false"
  | null => "#null"

/-- The text of a value that is one. -/
def text? : Value → Option String
  | text s => some s
  | _ => none

end Value

end Dispatch.Kdl
