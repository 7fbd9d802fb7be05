import Dispatch.Decimal.Integer
import Dispatch.Identifier

/-!
# IPv4 addresses

## Main definitions

* `Ipv4`: an address of four bytes.
* `Ipv4.text`, `Ipv4.parse?`: its dotted decimal form.
* `Ipv4.ofHostName?`: the older forms that a host name may have.
-/

namespace Dispatch

/-- An **IPv4 address**. -/
structure Ipv4 where
  first : UInt8
  second : UInt8
  third : UInt8
  fourth : UInt8
deriving DecidableEq, Repr

namespace Ipv4

/-- The address that a number of 32 bits stands for. -/
def ofNat (n : Nat) : Ipv4 :=
  ⟨UInt8.ofNat (n / 0x1000000), UInt8.ofNat (n / 0x10000), UInt8.ofNat (n / 0x100), UInt8.ofNat n⟩

/-- The **text** of an address: four decimal numbers with points between them. -/
def text (a : Ipv4) : List Char :=
  Decimal.digits a.first.toNat ++ '.' :: Decimal.digits a.second.toNat ++
    '.' :: Decimal.digits a.third.toNat ++ '.' :: Decimal.digits a.fourth.toNat

/-- A decimal number of up to three digits that fits a byte and has no leading zero. -/
def byte? (cs : List Char) : Option UInt8 :=
  if 3 < cs.length || (1 < cs.length && cs.head? = some '0') then none
  else do
    let n ← Decimal.nat? cs
    if n < 256 then some (UInt8.ofNat n) else none

/-- The address with a text. -/
def parse? (cs : List Char) : Option Ipv4 :=
  match cs.splitOn '.' with
  | [a, b, c, d] => do return ⟨← byte? a, ← byte? b, ← byte? c, ← byte? d⟩
  | _ => none

/-! ### Host names that stand for addresses -/

/-- Digits of a base below ten. -/
def ofDigits? (base : Nat) (cs : List Char) : Option Nat :=
  if cs.all fun c => Decimal.isDigit c && Decimal.digitValue c < base then
    some (cs.foldl (fun n c => base * n + Decimal.digitValue c) 0)
  else none

/-- A number in a host name: hexadecimal after `0x`, octal after another zero, else decimal. -/
def number? : List Char → Option Nat
  | '0' :: 'x' :: cs => Id.hexNumber? cs
  | '0' :: 'X' :: cs => Id.hexNumber? cs
  | '0' :: c :: cs => ofDigits? 8 (c :: cs)
  | cs => if cs.isEmpty then none else ofDigits? 10 cs

/-- The parts of a host name between points; a point at its end does not count. -/
def parts (cs : List Char) : List (List Char) :=
  let parts := cs.splitOn '.'
  if 1 < parts.length && parts.getLast? = some [] then parts.dropLast else parts

/-- The host name **ends in a number**, and so has to be an address. -/
def endsInNumber (cs : List Char) : Bool :=
  match (parts cs).getLast? with
  | some last => (!last.isEmpty && last.all Decimal.isDigit) || (number? last).isSome
  | none => false

/-- The number that up to four parts stand for: all but the last are bytes, and the last fills
the bytes that are left. -/
def combine? : (room : Nat) → List Nat → Option Nat
  | _, [] => some 0
  | room, [n] => if n < Nat.pow 256 room then some n else none
  | 0, _ => none
  | room + 1, n :: rest => do
    if 256 ≤ n then none
    return n * Nat.pow 256 room + (← combine? room rest)

/-- The address that a **host name** stands for. -/
def ofHostName? (cs : List Char) : Option Ipv4 := do
  let numbers ← (parts cs).mapM number?
  if 4 < numbers.length then none
  return ofNat (← combine? 4 numbers)

end Ipv4

end Dispatch
