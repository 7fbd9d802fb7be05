import Dispatch.Decimal.Integer
import Dispatch.Web.Percent

/-!
# Form data

The query of an address is a list of names and values in the format of a submitted form.

## Main definitions

* `Form.parse`: the names and values of a query.
* `Form.write`: the query for names and values.
-/

namespace Dispatch.Form

/-- A name or a value: a plus sign stands for a space, and the rest is percent-encoded. -/
def readPart (cs : List Char) : String :=
  let spaced := cs.map fun c => if c = '+' then ' ' else c
  Percent.decodeText (String.ofList spaced)

/-- One name and its value, which is empty where there is no equals sign. -/
def readPair (cs : List Char) : String × String :=
  (readPart (cs.takeWhile (· ≠ '=')), readPart ((cs.dropWhile (· ≠ '=')).drop 1))

/-- The **names and values** of a query in their order. -/
def parse (query : String) : List (String × String) :=
  ((query.toList.splitOn '&').filter (! ·.isEmpty)).map readPair

/-- The characters that stand for themselves in a form. -/
def isPlain (c : Char) : Bool :=
  Percent.isAlphanumeric c || c = '*' || c = '-' || c = '.' || c = '_'

/-- A name or a value as it is written: a space as a plus sign. -/
def writePart (s : String) : List Char :=
  (Percent.encode (fun c => isPlain c || c = ' ') s).map fun c => if c = ' ' then '+' else c

/-- A name and its value as they are written. -/
def writePair (pair : String × String) : List Char :=
  writePart pair.1 ++ '=' :: writePart pair.2

/-- The **query** for names and values. -/
def write (pairs : List (String × String)) : String :=
  String.ofList (['&'].intercalate (pairs.map writePair))

/-- A value that is a whole number of 64 bits with a sign. -/
def int64? (value : String) : Option Int64 := do
  Decimal.int64? (← Decimal.int? value.toList)

end Dispatch.Form
