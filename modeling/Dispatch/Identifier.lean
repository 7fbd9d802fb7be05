import Dispatch.Text.Quoted

/-!
# Record identifiers

Every stored record has an identifier of the UUID format. Those that the store issues form a
block of their own: the first four groups name the kind of record, and the last group counts the
records of that kind. So an issued identifier never equals one that came from elsewhere, and
issuing needs no chance.

## Main definitions

* `RecordKind`: the kinds of records that have identifiers.
* `Id`: an issued or a foreign identifier.
* `Id.text`, `Id.parse?`: the hyphenated text of an identifier and reading it.
-/

namespace Dispatch

/-- The kinds of records that have identifiers. -/
inductive RecordKind where
  | user
  | repository
  | gitRef
  | submission
  | task
  | run
  | queueItem
deriving DecidableEq, Repr

namespace RecordKind

/-- The hexadecimal digit that names a kind within an identifier. -/
def code : RecordKind → Nat
  | user => 1
  | repository => 2
  | gitRef => 3
  | submission => 4
  | task => 5
  | run => 6
  | queueItem => 7

/-- The kind that a digit names. -/
def ofCode? : Nat → Option RecordKind
  | 1 => some user
  | 2 => some repository
  | 3 => some gitRef
  | 4 => some submission
  | 5 => some task
  | 6 => some run
  | 7 => some queueItem
  | _ => none

@[simp] theorem ofCode?_code (k : RecordKind) : ofCode? k.code = some k := by cases k <;> rfl

end RecordKind

namespace Id

/-- All identifiers are below this number. -/
def bound : Nat := 0x100000000000000000000000000000000

/-- The first four groups of an issued identifier, as a number of twenty hexadecimal digits. -/
def stem (kind : RecordKind) : Nat := 0x019f8a6d41c270008000 + kind.code * 0x1000000

/-- The kind that the first four groups of an identifier name, if it was issued. -/
def kindOfStem? (n : Nat) : Option RecordKind :=
  match RecordKind.ofCode? (n / 0x1000000 % 0x10) with
  | some kind => if stem kind = n then some kind else none
  | none => none

@[simp] theorem kindOfStem?_stem (kind : RecordKind) : kindOfStem? (stem kind) = some kind := by
  cases kind <;> rfl

end Id

/-- A **record identifier**. An issued one counts the records of its kind from one; a foreign one
is any UUID outside the block of the issued ones. -/
inductive Id where
  | issued (kind : RecordKind) (serial : Nat)
  | foreign (value : Nat) (bounded : value < Id.bound)
      (outside : Id.kindOfStem? (value / 0x1000000000000) = none)
deriving DecidableEq

namespace Id

/-- The identifier with a given 128-bit value. -/
def ofValue (value : Nat) (bounded : value < Id.bound) : Id :=
  match h : kindOfStem? (value / 0x1000000000000) with
  | some kind => issued kind (value % 0x1000000000000)
  | none => foreign value bounded h

/-- At least `width` hexadecimal digits of a number. -/
def hexPadded (width n : Nat) : List Char :=
  let ds := Text.hexDigits n
  List.replicate (width - ds.length) '0' ++ ds

/-- The hexadecimal digits of an identifier. There are thirty-two, but more for an issued identifier
whose count has more than twelve, which is no UUID and is not read. -/
def hex : Id → List Char
  | issued kind serial => hexPadded 20 (stem kind) ++ hexPadded 12 serial
  | foreign value _ _ => hexPadded 32 value

/-- Groups of eight, four, four, four and the remaining digits with hyphens between them. -/
def hyphenated (ds : List Char) : List Char :=
  ds.take 8 ++ '-' :: (ds.drop 8).take 4 ++ '-' :: (ds.drop 12).take 4 ++
    '-' :: (ds.drop 16).take 4 ++ '-' :: ds.drop 20

/-- The **text** of an identifier, in hyphenated groups of lower-case digits. -/
def text (id : Id) : String := String.ofList (hyphenated id.hex)

/-- The value of a hexadecimal digit of either case. -/
def hexValue? (c : Char) : Option Nat :=
  if '0' ≤ c && c ≤ '9' then some (c.toNat - '0'.toNat)
  else if 'a' ≤ c && c ≤ 'f' then some (c.toNat - 'a'.toNat + 10)
  else if 'A' ≤ c && c ≤ 'F' then some (c.toNat - 'A'.toNat + 10)
  else none

/-- The number that a list of hexadecimal digits denotes. -/
def hexNumber? (cs : List Char) : Option Nat :=
  cs.foldl (fun n c => do return 16 * (← n) + (← hexValue? c)) (some 0)

/-- The digits of a text in hyphenated groups. -/
def groups? (cs : List Char) : Option (List Char) :=
  match cs.splitOn '-' with
  | [a, b, c, d, e] =>
    if a.length = 8 && b.length = 4 && c.length = 4 && d.length = 4 && e.length = 12 then
      some (a ++ b ++ c ++ d ++ e)
    else none
  | _ => none

/-- The identifier with the given digits. -/
def ofHex? (ds : List Char) : Option Id := do
  let value ← hexNumber? ds
  if h : value < Id.bound then some (ofValue value h) else none

/-- The text without the mark `urn:uuid:` in any case, or without braces around it. -/
def unwrapped (cs : List Char) : List Char :=
  if (cs.take 9).map Char.toLower = "urn:uuid:".toList then cs.drop 9
  else if cs.head? = some '\x7b' && cs.getLast? = some '\x7d' then (cs.drop 1).dropLast
  else cs

/-- **Reads an identifier**: thirty-two digits of either case on their own, or hyphenated groups,
which may stand in braces or after `urn:uuid:`. -/
def parse? (s : String) : Option Id :=
  let cs := s.toList
  if cs.length = 32 && cs.all (· ≠ '-') then ofHex? cs
  else (groups? (unwrapped cs)).bind ofHex?

/-- The identifier as a **label**: its kind and its place among the records of that kind. Foreign
identifiers have none. -/
def issued? : Id → Option (RecordKind × Nat)
  | issued kind serial => some (kind, serial)
  | foreign _ _ _ => none

end Id

end Dispatch
