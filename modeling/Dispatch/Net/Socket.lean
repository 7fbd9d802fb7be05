import Dispatch.Net.Ipv6

/-!
# Socket addresses

A server listens on the address of a machine and a port.

## Main definitions

* `SocketAddress`: an address with a port.
* `SocketAddress.text`, `SocketAddress.parse?`: its text, with brackets around IPv6.
-/

namespace Dispatch

/-- A **socket address**. An IPv6 address may name the interface that it belongs to. -/
inductive SocketAddress where
  | ipv4 (address : Ipv4) (port : UInt16)
  | ipv6 (address : Ipv6) (scope : UInt32) (port : UInt16)
deriving DecidableEq

namespace SocketAddress

/-- A number below a bound. -/
def below? (bound : Nat) (cs : List Char) : Option Nat := do
  let n ← Decimal.nat? cs
  if n < bound then some n else none

/-- The port in a text that ends with it, after a colon. -/
def port? : List Char → Option UInt16
  | ':' :: cs => (below? UInt16.size cs).map UInt16.ofNat
  | _ => none

/-- The interface that may follow an IPv6 address after a percent sign. -/
def scope? : List Char → Option UInt32
  | [] => some 0
  | _ :: cs => (below? UInt32.size cs).map UInt32.ofNat

/-- The **socket address with a text**. -/
def parse? (s : String) : Option SocketAddress :=
  match s.toList with
  | '[' :: cs => do
    let inner := cs.takeWhile (· ≠ ']')
    let address ← Ipv6.parse? (inner.takeWhile (· ≠ '%'))
    let scope ← scope? (inner.dropWhile (· ≠ '%'))
    return ipv6 address scope (← port? (cs.drop (inner.length + 1)))
  | cs => do
    let address ← Ipv4.parse? (cs.takeWhile (· ≠ ':'))
    return ipv4 address (← port? (cs.dropWhile (· ≠ ':')))

/-- The text of an IPv6 address in a socket address, where an IPv4 address within it is shown. -/
def ipv6Text (a : Ipv6) : List Char :=
  match a.mapped? with
  | some inner => "::ffff:".toList ++ inner.text
  | none => a.text

/-- The **text** of a socket address. -/
def text : SocketAddress → String
  | ipv4 address port => String.ofList (address.text ++ ':' :: Decimal.digits port.toNat)
  | ipv6 address scope port =>
    let scope := if scope = 0 then [] else '%' :: Decimal.digits scope.toNat
    String.ofList ('[' :: ipv6Text address ++ scope ++ ']' :: ':' :: Decimal.digits port.toNat)

end SocketAddress

end Dispatch
