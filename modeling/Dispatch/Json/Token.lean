import Dispatch.Decimal.Binary64
import Dispatch.Decimal.Integer
import Dispatch.Identifier

/-!
# The lexical elements of JSON

A JSON text is a sequence of marks, texts, numbers and words with blanks between them.

## Main definitions

* `Json.Token`: the lexical elements.
* `Json.tokens`: the elements of a text up to the first place that is none, and whether the text
  ends there.
-/

namespace Dispatch.Json

/-- A **lexical element** of a JSON text. -/
inductive Token where
  | openArray
  | closeArray
  | openObject
  | closeObject
  | colon
  | comma
  | text (value : String)
  | int (value : Int)
  | float (value : Binary64)
  | bool (value : Bool)
  | null
deriving Repr

/-- The four characters that may stand between elements. -/
def isGap (c : Char) : Bool := c = ' ' || c = '\t' || c = '\n' || c = '\r'

/-! ### Texts -/

/-- The code unit that four hexadecimal digits at the front denote. -/
def codeUnit? (cs : List Char) : Option Nat :=
  if (cs.take 4).length = 4 then Id.hexNumber? (cs.take 4) else none

/-- What a backslash and the characters after it stand for, and how many of these belong to it.
Two code units that form a pair stand for one character; a unit of a pair alone is an error. -/
def escaped? (cs : List Char) : Option (Char × Nat) :=
  match cs with
  | '"' :: _ => some ('"', 1)
  | '\\' :: _ => some ('\\', 1)
  | '/' :: _ => some ('/', 1)
  | 'b' :: _ => some ('\x08', 1)
  | 'f' :: _ => some ('\x0c', 1)
  | 'n' :: _ => some ('\n', 1)
  | 'r' :: _ => some ('\r', 1)
  | 't' :: _ => some ('\t', 1)
  | 'u' :: cs => do
    let unit ← codeUnit? cs
    if 0xD800 ≤ unit && unit < 0xDC00 then
      match cs.drop 4 with
      | '\\' :: 'u' :: cs =>
        let low ← codeUnit? cs
        if 0xDC00 ≤ low && low < 0xE000 then
          some (Char.ofNat (0x10000 + (unit - 0xD800) * 0x400 + (low - 0xDC00)), 11)
        else none
      | _ => none
    else if 0xDC00 ≤ unit && unit < 0xE000 then none
    else some (Char.ofNat unit, 5)
  | _ => none

/-- The rest of a text after its opening quote, and what follows the closing one. Control
characters may only be written with a backslash. -/
def textBody? (done : List Char) (cs : List Char) : Option (String × List Char) :=
  match cs with
  | [] => none
  | '"' :: cs => some (String.ofList done.reverse, cs)
  | '\\' :: cs =>
    match escaped? cs with
    | some (c, used) => textBody? (c :: done) (cs.drop used)
    | none => none
  | c :: cs => if c.toNat < 0x20 then none else textBody? (c :: done) cs
termination_by cs.length
decreasing_by all_goals simp; try omega

/-! ### Numbers -/

/-- The largest count that the digits of a number are gathered in; digits past it only move the
decimal point. -/
def maxSignificand : Nat := UInt64.size - 1

/-- Gathers digits while the number stays within `maxSignificand`, and counts the digits that
were left out. -/
def gather (n : Nat) : List Char → Nat × Nat
  | [] => (n, 0)
  | d :: ds =>
    let next := 10 * n + Decimal.digitValue d
    if maxSignificand < next then (n, ds.length + 1) else gather next ds

/-- The number `significand * 10 ^ exponent`: the significand is rounded first, and each scaling
by a power of ten rounds again. It is an error if the result is too large. -/
def scaled? (negative : Bool) (significand : Nat) (exponent : Int) : Option Binary64 :=
  let start := Binary64.ofRatio negative significand 1
  let power (n : Nat) : Nat × Nat :=
    match Binary64.ofRatio false (Nat.pow 10 n) 1 with
    | .finite _ m q => Binary64.ratio m q
    | _ => (1, 1)
  let ratioOf : Binary64 → Nat × Nat
    | .finite _ m q => Binary64.ratio m q
    | _ => (0, 1)
  if significand = 0 then some (Binary64.zero negative)
  else if 308 < exponent then none
  else if 0 ≤ exponent then
    match Binary64.scaleUp negative (ratioOf start) (power exponent.toNat) with
    | .infinite _ => none
    | x => some x
  else
    let down (x : Binary64) (n : Nat) : Binary64 :=
      Binary64.scaleDown negative (ratioOf x) (power n)
    let steps := (-exponent).toNat / 308
    if 3 < steps then some (Binary64.zero negative)
    else
      let exact := (-exponent).toNat % 308
      let full := List.range steps
      some (down (full.foldl (fun x _ => down x 308) start) exact)

/-- A number at the front: digits without a leading zero, then perhaps a fraction and an
exponent, which make it a number with a fraction. So do a minus sign before zero and a number
beyond 64 bits. -/
def number? (cs : List Char) : Option (Token × List Char) :=
  let (negative, cs) := match cs with
    | '-' :: cs => (true, cs)
    | cs => (false, cs)
  let whole := cs.takeWhile Decimal.isDigit
  let cs := cs.drop whole.length
  if whole.isEmpty || (whole.head? = some '0' && 1 < whole.length) then none
  else do
    let (fraction, cs, plain) ← match cs with
      | '.' :: cs =>
        let ds := cs.takeWhile Decimal.isDigit
        if ds.isEmpty then none else some (ds, cs.drop ds.length, false)
      | _ => some ([], cs, true)
    let (exponent, cs, plain) ← match cs with
      | e :: cs' =>
        if e = 'e' || e = 'E' then
          let (down, cs') := match cs' with
            | '-' :: cs' => (true, cs')
            | '+' :: cs' => (false, cs')
            | _ => (false, cs')
          let ds := cs'.takeWhile Decimal.isDigit
          if ds.isEmpty then none
          else
            let size := Decimal.value (ds.take 12)
            let size := if 12 < ds.length then max size 1000000000000 else size
            some (if down then -(size : Int) else (size : Int), cs'.drop ds.length, false)
        else some (0, cs, plain)
      | [] => some (0, cs, plain)
    let (n, left) := gather 0 whole
    if plain && left = 0 && !negative then some (.int n, cs)
    else if plain && left = 0 && n ≠ 0 && n ≤ 0x8000000000000000 then some (.int (-(n : Int)), cs)
    else
      let (n, exponent) :=
        if 0 < left then (n, exponent + left)
        else
          let (m, skipped) := gather n fraction
          (m, exponent - (fraction.length - skipped))
      let x ← scaled? negative n exponent
      some (.float x, cs)

/-! ### All elements -/

/-- The text after a word, if the text begins with it. -/
def word? (word : String) (cs : List Char) : Option (List Char) :=
  if word.toList.isPrefixOf cs then some (cs.drop word.length) else none

/-- The **first element** of a text that does not begin with a gap, and the text after it. -/
def first? (cs : List Char) : Option (Token × List Char) :=
  match cs with
  | '[' :: cs => some (.openArray, cs)
  | ']' :: cs => some (.closeArray, cs)
  | '\x7b' :: cs => some (.openObject, cs)
  | '\x7d' :: cs => some (.closeObject, cs)
  | ':' :: cs => some (.colon, cs)
  | ',' :: cs => some (.comma, cs)
  | '"' :: cs => (textBody? [] cs).map fun (s, cs) => (.text s, cs)
  | 't' :: _ => (word? "true" cs).map (.bool true, ·)
  | 'f' :: _ => (word? "false" cs).map (.bool false, ·)
  | 'n' :: _ => (word? "null" cs).map (.null, ·)
  | _ => number? cs

/-- The elements of a text up to the first place that is none, and whether the text ends
there. -/
def tokens : List Char → List Token × Bool
  | [] => ([], true)
  | c :: rest =>
    if isGap c then tokens rest
    else match first? (c :: rest) with
      | none => ([], false)
      | some (token, after) =>
        if after.length ≤ rest.length then
          let (more, ended) := tokens after
          (token :: more, ended)
        else ([], false)
termination_by cs => cs.length
decreasing_by all_goals simp; try omega

end Dispatch.Json
