import Dispatch.Decimal.Shortest
import Dispatch.Json.Value
import Dispatch.Text.Quoted

/-!
# Writing JSON

## Main definitions

* `Json.compact`: the text of a value without blanks.
* `Json.pretty`: the text of a value over several lines, two spaces for each level.
-/

namespace Dispatch.Json

/-- Numbers are written positionally from `0.00001` up to but not including `1e16`. -/
def numberLayout : Decimal.Layout := ⟨-5, 16⟩

/-- A character within a text. Control characters are written by name or by number, everything
else but the quote and the backslash as itself. -/
def escapeChar (c : Char) : List Char :=
  if c = '"' then ['\\', '"']
  else if c = '\\' then ['\\', '\\']
  else if c = '\n' then ['\\', 'n']
  else if c = '\r' then ['\\', 'r']
  else if c = '\t' then ['\\', 't']
  else if c = '\x08' then ['\\', 'b']
  else if c = '\x0c' then ['\\', 'f']
  else if c.toNat < 0x20 then
    ['\\', 'u', '0', '0', Text.hexDigit (c.toNat / 16), Text.hexDigit (c.toNat % 16)]
  else [c]

/-- A text between quotes. -/
def textChars (s : String) : List Char := '"' :: s.toList.flatMap escapeChar ++ ['"']

/-- A number with a fraction; what is not finite is written as null. -/
def floatChars : Binary64 → List Char
  | .finite negative m q => numberLayout.text negative m q
  | _ => "null".toList

mutual

/-- The characters of a value without blanks. -/
def compactChars : Json → List Char
  | null => "null".toList
  | bool true => "true".toList
  | bool false => "false".toList
  | int n => Decimal.signed n
  | float x => floatChars x
  | text s => textChars s
  | array items => '[' :: compactItems items ++ [']']
  | object members => '\x7b' :: compactMembers members ++ ['\x7d']

/-- `compactChars` on the items of an array. -/
def compactItems : List Json → List Char
  | [] => []
  | [item] => compactChars item
  | item :: items => compactChars item ++ ',' :: compactItems items

/-- `compactChars` on the members of an object. -/
def compactMembers : List (String × Json) → List Char
  | [] => []
  | [(name, value)] => textChars name ++ ':' :: compactChars value
  | (name, value) :: members =>
    textChars name ++ ':' :: compactChars value ++ ',' :: compactMembers members

end

/-- The text of a value without blanks. -/
def compact (j : Json) : String := String.ofList (compactChars j)

/-- A new line with two spaces for each level. -/
def newLine (level : Nat) : List Char := '\n' :: List.replicate (2 * level) ' '

mutual

/-- The characters of a value that starts at a level. -/
def prettyChars (level : Nat) : Json → List Char
  | array [] => ['[', ']']
  | array items => '[' :: prettyItems (level + 1) items ++ newLine level ++ [']']
  | object [] => ['\x7b', '\x7d']
  | object members => '\x7b' :: prettyMembers (level + 1) members ++ newLine level ++ ['\x7d']
  | j => compactChars j

/-- `prettyChars` on the items of an array, each on a line of its own. -/
def prettyItems (level : Nat) : List Json → List Char
  | [] => []
  | [item] => newLine level ++ prettyChars level item
  | item :: items => newLine level ++ prettyChars level item ++ ',' :: prettyItems level items

/-- `prettyChars` on the members of an object, each on a line of its own. -/
def prettyMembers (level : Nat) : List (String × Json) → List Char
  | [] => []
  | [(name, value)] => newLine level ++ textChars name ++ ':' :: ' ' :: prettyChars level value
  | (name, value) :: members =>
    newLine level ++ textChars name ++ ':' :: ' ' :: prettyChars level value ++
      ',' :: prettyMembers level members

end

/-- The text of a value over several lines. -/
def pretty (j : Json) : String := String.ofList (prettyChars 0 j)

end Dispatch.Json
