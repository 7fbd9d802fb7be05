import Dispatch.Console.Reading
import Dispatch.Decimal.Integer
import Dispatch.Web.Url.Reading

/-!
# Values on the command line

## Main definitions

* `Console.uint64?`, `Console.int64?`, `Console.url?`: the values that a word can stand for.
* `Console.Level.get?`: the value of a parameter.
-/

namespace Dispatch.Console

/-- A whole number, which may have a plus sign. -/
def natural? (word : String) : Option Nat :=
  match word.toList with
  | '+' :: cs => Decimal.nat? cs
  | cs => Decimal.nat? cs

/-- A whole number of 64 bits without a minus sign. -/
def uint64? (word : String) : Option UInt64 := do
  let n ← natural? word
  if n < UInt64.size then some (UInt64.ofNat n) else none

/-- A whole number of 64 bits. -/
def int64? (word : String) : Option Int64 := do
  Decimal.int64? (← Decimal.int? word.toList)

/-- An address. -/
def url? (word : String) : Option Url := (Url.parse word).toOption

/-- Only words that stand for a value can be given. -/
def Parameter.reads {α : Type} (read : String → Option α) (p : Parameter) : Parameter :=
  p.onlyIf fun word => (read word).isSome

namespace Level

variable {α : Type}

/-- The **value** of a parameter that has one. -/
def get? (l : Level) (name : String) (read : String → Option α) : Option α :=
  (l.value? name).bind read

end Level

end Dispatch.Console
