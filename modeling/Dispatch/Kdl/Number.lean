import Dispatch.Identifier
import Dispatch.Kdl.Value

/-!
# Numbers in KDL

A bare word that begins like a number must be one.

## Main definitions

* `Kdl.number?`: the number that a word denotes.
-/

namespace Dispatch.Kdl

/-- The largest magnitude of a whole number. -/
def maxInteger : Nat := 0x7FFFFFFFFFFFFFFFFFFFFFFFFFFFFFFF

/-- Digits of a base, the first of which is no underscore; the underscores do not count. -/
def digits? (base : Nat) (cs : List Char) : Option (List Nat) :=
  let digit? (c : Char) : Option Nat := (Id.hexValue? c).filter (· < base)
  match cs with
  | [] => none
  | c :: _ =>
    if (digit? c).isSome then (cs.filter (· ≠ '_')).mapM digit? else none

/-- The number that a list of digits of a base denotes. -/
def fromDigits (base : Nat) (ds : List Nat) : Nat := ds.foldl (fun n d => base * n + d) 0

/-- A whole number within the bounds. -/
def bounded (negative : Bool) (n : Nat) : Option Value :=
  if maxInteger < n then none else some (.int (if negative then -(n : Int) else n))

/-- The exponent that a list of digits after `e` denotes; one that no fraction can balance is
cut short. -/
def exponent? (cs : List Char) : Option Int := do
  let (negative, cs) := match cs with
    | '-' :: cs => (true, cs)
    | '+' :: cs => (false, cs)
    | cs => (false, cs)
  let ds ← digits? 10 cs
  let ds := ds.dropWhile (· = 0)
  let n := if 12 < ds.length then 1000000000000 else fromDigits 10 ds
  return if negative then -(n : Int) else n

/-- A number in decimal digits: whole, or with a fraction or an exponent. -/
def decimal? (negative : Bool) (cs : List Char) : Option Value := do
  let isExponentMark (c : Char) : Bool := c = 'e' || c = 'E'
  let mantissa := cs.takeWhile fun c => !isExponentMark c
  let exponentPart := cs.drop mantissa.length
  let whole := mantissa.takeWhile (· ≠ '.')
  let fractionPart := mantissa.drop whole.length
  let wholeDigits ← digits? 10 whole
  let fractionDigits ← match fractionPart with
    | [] => some []
    | _ :: fraction => digits? 10 fraction
  let exponent ← match exponentPart with
    | [] => some 0
    | _ :: e => exponent? e
  if fractionPart.isEmpty && exponentPart.isEmpty then bounded negative (fromDigits 10 wholeDigits)
  else
    return .float (Binary64.ofDecimal negative (fromDigits 10 (wholeDigits ++ fractionDigits))
      (exponent - fractionDigits.length))

/-- The **number** that a word denotes. -/
def number? (word : List Char) : Option Value :=
  let (negative, cs) := match word with
    | '-' :: cs => (true, cs)
    | '+' :: cs => (false, cs)
    | cs => (false, cs)
  let whole (base : Nat) (cs : List Char) : Option Value :=
    (digits? base cs).bind fun ds => bounded negative (fromDigits base ds)
  match cs with
  | '0' :: 'x' :: cs => whole 16 cs
  | '0' :: 'o' :: cs => whole 8 cs
  | '0' :: 'b' :: cs => whole 2 cs
  | _ => decimal? negative cs

/-- A word looks like a number when it begins with a digit, or with a sign or a point or both
before one. -/
def looksLikeNumber (word : List Char) : Bool :=
  let unsigned := match word with
    | '-' :: cs | '+' :: cs => cs
    | cs => cs
  let start := match unsigned with
    | '.' :: cs => cs
    | cs => cs
  (start.head?.map Decimal.isDigit).getD false

end Dispatch.Kdl
