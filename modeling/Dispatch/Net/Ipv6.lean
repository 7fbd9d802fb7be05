import Dispatch.Net.Ipv4

/-!
# IPv6 addresses

## Main definitions

* `Ipv6`: an address of eight groups.
* `Ipv6.text`, `Ipv6.parse?`: its text, in which the longest run of zeros is left out.
-/

namespace Dispatch

/-- An **IPv6 address**: eight groups of sixteen bits. -/
structure Ipv6 where
  groups : List UInt16
  eight : groups.length = 8
deriving DecidableEq

namespace Ipv6

/-- One to four hexadecimal digits. -/
def group? (cs : List Char) : Option UInt16 :=
  if cs.isEmpty || 4 < cs.length then none
  else (Id.hexNumber? cs).map UInt16.ofNat

/-- The two groups that an IPv4 address takes up. -/
def pair (a : Ipv4) : List UInt16 :=
  [UInt16.ofNat (a.first.toNat * 256 + a.second.toNat),
    UInt16.ofNat (a.third.toNat * 256 + a.fourth.toNat)]

/-- The groups of a text, which may end with an IPv4 address. -/
def groupsOfParts? : List (List Char) → Option (List UInt16)
  | [] => some []
  | [last] => ((Ipv4.parse? last).map pair).or ((group? last).map fun g => [g])
  | part :: rest => do return (← group? part) :: (← groupsOfParts? rest)

/-- The parts of a text between colons; an empty text has none. -/
def parts (cs : List Char) : List (List Char) := if cs.isEmpty then [] else cs.splitOn ':'

/-- What stands before and after the first two colons in a row. -/
def cut? : List Char → Option (List Char × List Char)
  | ':' :: ':' :: cs => some ([], cs)
  | c :: cs => (cut? cs).map fun (before, after) => (c :: before, after)
  | [] => none

/-- The address of eight groups. -/
def ofGroups? (groups : List UInt16) : Option Ipv6 :=
  if h : groups.length = 8 then some ⟨groups, h⟩ else none

/-- The **address with a text**. Two colons stand for as many zeros as are missing, which is at
least one. -/
def parse? (cs : List Char) : Option Ipv6 := do
  match cut? cs with
  | none => ofGroups? (← groupsOfParts? (parts cs))
  | some (before, after) =>
    let front ← (parts before).mapM group?
    let back ← groupsOfParts? (parts after)
    if 7 < front.length + back.length then none
    ofGroups? (front ++ List.replicate (8 - front.length - back.length) 0 ++ back)

/-- The number of zeros that a list of groups begins with. -/
def leadingZeros (groups : List UInt16) : Nat := (groups.takeWhile (· = 0)).length

/-- Where the first of the longest runs of zeros begins and how long it is, if it has at least two
zeros. -/
def zeros (groups : List UInt16) : Option (Nat × Nat) :=
  (List.range groups.length).foldl (fun best start =>
    let size := leadingZeros (groups.drop start)
    if max 1 (best.elim 0 Prod.snd) < size then some (start, size) else best) none

/-- Groups in hexadecimal with colons between them. -/
def joined (groups : List UInt16) : List Char :=
  [':'].intercalate (groups.map fun g => Text.hexDigits g.toNat)

/-- The **text** of an address: its groups in hexadecimal without leading zeros, and two colons in
place of the longest run of zeros. -/
def text (a : Ipv6) : List Char :=
  match zeros a.groups with
  | some (start, size) =>
    joined (a.groups.take start) ++ ':' :: ':' :: joined (a.groups.drop (start + size))
  | none => joined a.groups

/-- The IPv4 address that an IPv6 address of the form `::ffff:…` carries. -/
def mapped? (a : Ipv6) : Option Ipv4 :=
  match a.groups with
  | [0, 0, 0, 0, 0, 0xFFFF, high, low] => some (.ofNat (high.toNat * 0x10000 + low.toNat))
  | _ => none

end Ipv6

end Dispatch
