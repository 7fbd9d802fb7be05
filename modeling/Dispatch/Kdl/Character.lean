/-!
# Characters of KDL

The document language KDL divides characters into spaces, line ends, those that a document may
not hold and those that a bare word is made of.

## Main definitions

* `Kdl.isSpace`, `Kdl.isLineEnd`, `Kdl.isBanned`, `Kdl.isWordChar`: the classes.
* `Kdl.dropLineEnd`: the text after one line end; a carriage return and the line feed after it
  end one line together.
-/

namespace Dispatch.Kdl

/-- A **space** divides words on one line. -/
def isSpace (c : Char) : Bool :=
  let n := c.toNat
  n == 0x9 || n == 0x20 || n == 0xA0 || n == 0x1680 || (0x2000 ≤ n && n ≤ 0x200A) ||
    n == 0x202F || n == 0x205F || n == 0x3000

/-- A **line end**. -/
def isLineEnd (c : Char) : Bool :=
  let n := c.toNat
  (0xA ≤ n && n ≤ 0xD) || n == 0x85 || n == 0x2028 || n == 0x2029

/-- A character that a document may not hold as itself. -/
def isBanned (c : Char) : Bool :=
  let n := c.toNat
  n ≤ 0x8 || (0xE ≤ n && n ≤ 0x1F) || n == 0x200E || n == 0x200F ||
    (0x202A ≤ n && n ≤ 0x202E) || (0x2066 ≤ n && n ≤ 0x2069) || n == 0xFEFF

/-- A character that has a meaning of its own wherever it stands. -/
def isMark (c : Char) : Bool :=
  c = '\\' || c = '/' || c = '(' || c = ')' || c = '\x7b' || c = '\x7d' || c = '[' || c = ']' ||
    c = ';' || c = '"' || c = '#' || c = '='

/-- A character that a bare **word** is made of. -/
def isWordChar (c : Char) : Bool := !isSpace c && !isLineEnd c && !isBanned c && !isMark c

/-- The text after a line end at its front. -/
def dropLineEnd : List Char → Option (List Char)
  | '\r' :: '\n' :: cs => some cs
  | c :: cs => if isLineEnd c then some cs else none
  | [] => none

/-- The text after the blanks at its front, which are spaces and line ends. -/
def dropBlanks (cs : List Char) : List Char := cs.dropWhile fun c => isSpace c || isLineEnd c

/-- The words that are reserved and may not stand bare. -/
def reservedWords : List String := ["inf", "nan", "true", "false", "null"]

end Dispatch.Kdl
