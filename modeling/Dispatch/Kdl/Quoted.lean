import Dispatch.Identifier
import Dispatch.Kdl.Character

/-!
# Quoted texts in KDL

A text between quotes may hold escapes, unless hash marks around the quotes make it raw. Three
quotes enclose a text of several lines, whose common indentation is that of the closing quotes.

## Main definitions

* `Kdl.quoted?`: reading a text after its opening quote.
* `Kdl.raw?`: reading a raw text after its first hash mark.
-/

namespace Dispatch.Kdl

/-- What the characters after a backslash stand for, and how many of them belong to it. A
backslash before blanks removes them. -/
def escaped? (cs : List Char) : Option (List Char × Nat) :=
  match cs with
  | '"' :: _ => some (['"'], 1)
  | '\\' :: _ => some (['\\'], 1)
  | 'b' :: _ => some (['\x08'], 1)
  | 'f' :: _ => some (['\x0c'], 1)
  | 'n' :: _ => some (['\n'], 1)
  | 'r' :: _ => some (['\r'], 1)
  | 't' :: _ => some (['\t'], 1)
  | 's' :: _ => some ([' '], 1)
  | 'u' :: '\x7b' :: cs => do
    let ds := cs.takeWhile (· ≠ '\x7d')
    let n ← Id.hexNumber? ds
    let valid := n < 0xD800 || (0xE000 ≤ n && n < 0x110000)
    if 1 ≤ ds.length && ds.length ≤ 6 && valid && ds.length < cs.length then
      some ([Char.ofNat n], ds.length + 3)
    else none
  | _ => none

/-- How many blanks a text begins with. -/
def blanksAtFront (cs : List Char) : Nat := cs.length - (dropBlanks cs).length

/-! ### Texts on one line -/

/-- The rest of a text on one line, and what follows its closing quote. -/
def lineBody? (done : List Char) (cs : List Char) : Option (List Char × List Char) :=
  match cs with
  | [] => none
  | '"' :: cs => some (done.reverse, cs)
  | '\\' :: cs =>
    match escaped? cs with
    | some (chars, used) => lineBody? (chars.reverse ++ done) (cs.drop used)
    | none => if blanksAtFront cs = 0 then none else lineBody? done (cs.drop (blanksAtFront cs))
  | c :: cs => if isLineEnd c || isBanned c then none else lineBody? (c :: done) cs
termination_by cs.length
decreasing_by all_goals simp; try omega

/-! ### Texts on several lines -/

/-- A character of a text on several lines, as it stands there or as an escape stands for it.
Only the former can be part of an indentation or end a line. -/
structure Written where
  char : Char
  literal : Bool
deriving DecidableEq

/-- A line end as it stands in a text, whichever characters it is made of. -/
def lineFeed : Written := ⟨'\n', true⟩

/-- The characters of a text up to its three closing quotes, and what follows these. -/
def blockBody? (done : List Written) (cs : List Char) : Option (List Written × List Char) :=
  match cs with
  | [] => none
  | '"' :: '"' :: '"' :: cs => some (done.reverse, cs)
  | '\\' :: cs =>
    match escaped? cs with
    | some (chars, used) =>
      blockBody? ((chars.map fun c => ⟨c, false⟩).reverse ++ done) (cs.drop used)
    | none => if blanksAtFront cs = 0 then none else blockBody? done (cs.drop (blanksAtFront cs))
  | '\r' :: '\n' :: cs => blockBody? (lineFeed :: done) cs
  | c :: cs =>
    if isBanned c then none
    else if isLineEnd c then blockBody? (lineFeed :: done) cs
    else blockBody? (⟨c, true⟩ :: done) cs
termination_by cs.length
decreasing_by all_goals simp; try omega

/-- The characters of a raw text up to three quotes and as many hash marks as opened it. -/
def rawBlockBody? (hashes : List Char) (done : List Written) (cs : List Char) :
    Option (List Written × List Char) :=
  match cs with
  | [] => none
  | c :: rest =>
    let closing := ['"', '"', '"'] ++ hashes
    if closing.isPrefixOf (c :: rest) then some (done.reverse, (c :: rest).drop closing.length)
    else if isBanned c then none
    else if isLineEnd c then
      rawBlockBody? hashes (lineFeed :: done)
        (if c = '\r' && rest.head? = some '\n' then rest.drop 1 else rest)
    else rawBlockBody? hashes (⟨c, true⟩ :: done) rest
termination_by cs.length
decreasing_by
  · rw [List.length_cons]
    split
    · rw [List.length_drop]; omega
    · omega
  · exact Nat.lt_succ_self _

/-- A space as it stands in a text. -/
def isIndent (w : Written) : Bool := w.literal && isSpace w.char

/-- A line without the indentation; a line of spaces only is empty. -/
def dedent? (indent line : List Written) : Option (List Char) :=
  if line.all isIndent then some []
  else if indent.isPrefixOf line then some ((line.drop indent.length).map (·.char))
  else none

/-- The text of several lines: the first begins after the opening quotes and must be empty, the
last is the indentation of the closing quotes, and every other has that indentation removed. -/
def block? (body : List Written) : Option (List Char) := do
  match body.splitOn lineFeed with
  | [] :: lines => do
    let indent ← lines.getLast?
    if indent.all isIndent then
      let dedented ← lines.dropLast.mapM (dedent? indent)
      return ['\n'].intercalate dedented
    else none
  | _ => none

/-- Reads a **quoted text** after its opening quote. -/
def quoted? (cs : List Char) : Option (String × List Char) :=
  match cs with
  | '"' :: '"' :: cs => do
    let (body, rest) ← blockBody? [] cs
    return (String.ofList (← block? body), rest)
  | cs => (lineBody? [] cs).map fun (body, rest) => (String.ofList body, rest)

/-! ### Raw texts -/

/-- The rest of a raw text on one line, and what follows its closing quote and hash marks. -/
def rawLineBody? (hashes : List Char) (done : List Char) :
    List Char → Option (List Char × List Char)
  | [] => none
  | c :: rest =>
    if c = '"' && hashes.isPrefixOf rest then some (done.reverse, rest.drop hashes.length)
    else if isLineEnd c || isBanned c then none
    else rawLineBody? hashes (c :: done) rest

/-- Reads a **raw text** after its first hash mark. -/
def raw? (cs : List Char) : Option (String × List Char) :=
  let more := cs.takeWhile (· = '#')
  let hashes := '#' :: more
  match cs.drop more.length with
  | '"' :: '"' :: '"' :: cs => do
    let (body, rest) ← rawBlockBody? hashes [] cs
    return (String.ofList (← block? body), rest)
  | '"' :: cs => (rawLineBody? hashes [] cs).map fun (body, rest) => (String.ofList body, rest)
  | _ => none

end Dispatch.Kdl
