import Dispatch.Kdl.Number
import Dispatch.Kdl.Quoted

/-!
# The lexical elements of KDL

A document is a sequence of values and marks with gaps between them. A gap is a space, a comment
within a line or a line end after a backslash; a line end or a comment up to one ends a node.

## Main definitions

* `Kdl.Token`: the lexical elements.
* `Kdl.tokens?`: the elements of a document.
-/

namespace Dispatch.Kdl

/-- A **lexical element** of a document. -/
inductive Token where
  | gap
  | lineEnd
  | semicolon
  | openBrace
  | closeBrace
  | openParen
  | closeParen
  | equals
  /-- What removes the element after it from the document. -/
  | slashDash
  | text (value : String)
  /-- A number or a word after a hash mark. -/
  | literal (value : Value)
deriving DecidableEq

/-- The text after a comment up to its line end, which ends with it. -/
def dropLineComment (cs : List Char) : List Char :=
  let rest := cs.dropWhile fun c => !isLineEnd c
  (dropLineEnd rest).getD []

/-- The text after the end of a comment; comments within it have ends of their own. -/
def dropComment? (depth : Nat) : List Char → Option (List Char)
  | '*' :: '/' :: cs => if depth = 0 then some cs else dropComment? (depth - 1) cs
  | '/' :: '*' :: cs => dropComment? (depth + 1) cs
  | _ :: cs => dropComment? depth cs
  | [] => none

/-- The text after the line end that a backslash makes a gap of. Spaces and comments may stand
between them. -/
def dropContinuation? (cs : List Char) : Option (List Char) :=
  match cs with
  | [] => some []
  | '/' :: '/' :: cs => some (dropLineComment cs)
  | '/' :: '*' :: rest =>
    match dropComment? 0 rest with
    | some after => if after.length ≤ rest.length then dropContinuation? after else none
    | none => none
  | c :: rest => if isSpace c then dropContinuation? rest else dropLineEnd (c :: rest)
termination_by cs.length
decreasing_by all_goals simp; try omega

/-- The value of a word after a hash mark. -/
def keyword? (word : List Char) : Option Value :=
  match String.ofList word with
  | "true" => some (.bool true)
  | "false" => some (.bool false)
  | "null" => some .null
  | "inf" => some (.float (.infinite false))
  | "-inf" => some (.float (.infinite true))
  | "nan" => some (.float .nan)
  | _ => none

/-- The element that a bare word is. -/
def word? (word : List Char) : Option Token :=
  if looksLikeNumber word then (number? word).map .literal
  else if reservedWords.contains (String.ofList word) then none
  else some (.text (String.ofList word))

/-- The **first element** of a text and the text after it. -/
def first? (cs : List Char) : Option (Token × List Char) :=
  match cs with
  | [] => none
  | ';' :: rest => some (.semicolon, rest)
  | '\x7b' :: rest => some (.openBrace, rest)
  | '\x7d' :: rest => some (.closeBrace, rest)
  | '(' :: rest => some (.openParen, rest)
  | ')' :: rest => some (.closeParen, rest)
  | '=' :: rest => some (.equals, rest)
  | '\\' :: rest => (dropContinuation? rest).map (.gap, ·)
  | '/' :: '/' :: rest => some (.lineEnd, dropLineComment rest)
  | '/' :: '*' :: rest => (dropComment? 0 rest).map (.gap, ·)
  | '/' :: '-' :: rest => some (.slashDash, rest)
  | '"' :: rest => (quoted? rest).map fun (s, rest) => (.text s, rest)
  | '#' :: rest =>
    let word := rest.takeWhile isWordChar
    if word.isEmpty then (raw? rest).map fun (s, rest) => (.text s, rest)
    else (keyword? word).map fun v => (.literal v, rest.drop word.length)
  | c :: rest =>
    if isSpace c then some (.gap, rest)
    else if isLineEnd c then (dropLineEnd (c :: rest)).map (.lineEnd, ·)
    else
      let word := (c :: rest).takeWhile isWordChar
      if word.isEmpty then none
      else (word? word).map fun token => (token, (c :: rest).drop word.length)

/-- The **elements** of a text, or `none` if there is a place that is no element. -/
def tokens? (done : Array Token) : List Char → Option (List Token)
  | [] => some done.toList
  | c :: rest =>
    match first? (c :: rest) with
    | none => none
    | some (token, after) =>
      if after.length ≤ rest.length then tokens? (done.push token) after else none
termination_by cs => cs.length
decreasing_by simp; omega

end Dispatch.Kdl
