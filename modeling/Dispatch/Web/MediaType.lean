import Dispatch.Web.Percent

/-!
# Media types

A request says what its body is by a media type: a type and a subtype with a slash between them,
and parameters after semicolons.

## Main definitions

* `MediaType.isJson`: the media type says that the body is JSON.
-/

namespace Dispatch.MediaType

/-- A character of a type, a subtype or the name of a parameter. -/
def isTokenChar (c : Char) : Bool :=
  Percent.isAlphanumeric c || "!#$%&'*+-.^_`|~".toList.contains c

/-- A character within the quotes around the value of a parameter. -/
def isQuotedChar (c : Char) : Bool := c ≠ '"' && 0x20 ≤ c.toNat && c.toNat < 0x7F

/-- What may follow the quotes around a value: blanks, then a semicolon or the end. -/
def afterQuotes? (cs : List Char) : Option (List Char) :=
  match cs.dropWhile (· = ' ') with
  | [] => some []
  | ';' :: rest => some rest
  | _ => none

/-- What comes after a quoted value and the semicolon that follows it. -/
def afterQuoted? (cs : List Char) : Option (List Char) :=
  let value := cs.takeWhile isQuotedChar
  match cs.drop value.length with
  | '"' :: rest => if value.isEmpty then none else afterQuotes? rest
  | _ => none

/-- What comes after a value and the semicolon that follows it. -/
def afterValue? (cs : List Char) : Option (List Char) :=
  match cs with
  | '"' :: quoted => afterQuoted? quoted
  | _ =>
    let value := cs.takeWhile isTokenChar
    match cs.drop value.length with
    | [] => some []
    | ';' :: rest => if value.isEmpty then none else some rest
    | _ => none

/-- What comes after one parameter and the semicolon that follows it. -/
def afterParameter? (cs : List Char) : Option (List Char) :=
  let name := cs.takeWhile isTokenChar
  match cs.drop name.length with
  | '=' :: rest => if name.isEmpty then none else afterValue? rest
  | _ => none

/-- The **parameters** are well formed. -/
def areParameters (cs : List Char) : Bool :=
  match cs with
  | [] => true
  | ' ' :: rest => areParameters rest
  | c :: rest =>
    match afterParameter? (c :: rest) with
    | some rest' => if _h : rest'.length < (c :: rest).length then areParameters rest' else false
    | none => false
termination_by cs.length
decreasing_by
  · exact Nat.lt_succ_self _
  · assumption

/-- A subtype without the suffix after its last plus sign, and the suffix. A plus sign at the
beginning belongs to the subtype. -/
def splitSuffix (subtype : List Char) : List Char × Option (List Char) :=
  let suffix := (subtype.reverse.takeWhile (· ≠ '+')).reverse
  let size := subtype.length - suffix.length
  if 2 ≤ size then (subtype.take (size - 1), some suffix) else (subtype, none)

/-- The media type says that the body is **JSON**: its type is `application`, and its subtype or
the suffix of it is `json`, in any case. -/
def isJson (s : String) : Bool :=
  let cs := s.toList.map Char.toLower
  let type := cs.takeWhile isTokenChar
  match cs.drop type.length with
  | '/' :: rest =>
    let subtype := rest.takeWhile isTokenChar
    let (name, suffix) := splitSuffix subtype
    let parameters := match rest.drop subtype.length with
      | [] => true
      | ';' :: parameters => areParameters parameters
      | _ => false
    type = "application".toList && !subtype.isEmpty && parameters &&
      (name = "json".toList || suffix = some "json".toList)
  | _ => false

end Dispatch.MediaType
