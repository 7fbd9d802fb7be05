import Dispatch.Decimal.Integer
import Dispatch.Dictionary
import Dispatch.Json.Value

/-!
# Records in JSON

A record is written as an object with a member for each field. It is read from an object, where
members may be missing or unknown, or from an array that holds the fields in their order.

## Main definitions

* `Json.Members`: the view of a value as the fields of a record.
* `Json.members?`, `Json.distinctMembers?`: the fields of a record in a value.
* `Members.required`, `Members.optional`, `Members.defaulted`: reading one field.
* `Json.string?`, `Json.int64?` and so on: reading the value of a field.
-/

namespace Dispatch.Json

/-! ### Single values -/

/-- A text. -/
def string? : Json → Option String
  | text s => some s
  | _ => none

/-- A truth value. -/
def bool? : Json → Option Bool
  | bool b => some b
  | _ => none

/-- A whole number. -/
def int? : Json → Option Int
  | int n => some n
  | _ => none

/-- A whole number of 64 bits with a sign. -/
def int64? : Json → Option Int64
  | int n => Decimal.int64? n
  | _ => none

/-- A whole number of 64 bits without a sign. -/
def uint64? : Json → Option UInt64
  | int n => if 0 ≤ n ∧ n < UInt64.size then some (UInt64.ofNat n.toNat) else none
  | _ => none

/-- A whole number of 32 bits without a sign. -/
def uint32? : Json → Option UInt32
  | int n => if 0 ≤ n ∧ n < UInt32.size then some (UInt32.ofNat n.toNat) else none
  | _ => none

/-- Null, or a value. -/
def nullable? {α : Type} (read : Json → Option α) : Json → Option (Option α)
  | null => some none
  | j => (read j).map some

/-- An array of values. -/
def list? {α : Type} (read : Json → Option α) : Json → Option (List α)
  | array items => items.mapM read
  | _ => none

/-- An object as a dictionary. -/
def dictionary? {α : Type} (read : Json → Option α) : Json → Option (Dictionary α)
  | object members =>
    members.foldlM (fun d (name, value) => (read value).map (d.insert name)) Dictionary.empty
  | _ => none

/-! ### Fields -/

/-- The view of a value as the **fields of a record**. -/
structure Members where
  lookup : String → Option Json
  positional : Bool

/-- The fields with the given names in a value. An array may not be longer than the record. -/
def members? (names : List String) : Json → Option Members
  | object members => some ⟨fun name => lastNamed name members, false⟩
  | array items =>
    if items.length ≤ names.length then
      some ⟨fun name => ((names.zip items).find? (·.1 = name)).map (·.2), true⟩
    else none
  | _ => none

/-- The fields of a record that is **read from a text as it stands**: no field may be there twice,
while the last one would count in a value that has been put together from the text. -/
def distinctMembers? (names : List String) (j : Json) : Option Members :=
  match j with
  | object members =>
    if names.all fun name => members.countP (·.1 = name) ≤ 1 then j.members? names else none
  | _ => j.members? names

namespace Members

variable {α : Type}

/-- A field that must be there. -/
def required (m : Members) (name : String) (read : Json → Option α) : Option α :=
  (m.lookup name).bind read

/-- A field that may be null, and in an object may be missing. -/
def optional (m : Members) (name : String) (read : Json → Option α) : Option (Option α) :=
  match m.lookup name with
  | some j => nullable? read j
  | none => if m.positional then none else some none

/-- A field that may be missing and has a default. -/
def defaulted (m : Members) (name : String) (default : α) (read : Json → Option α) : Option α :=
  match m.lookup name with
  | some j => read j
  | none => some default

end Members

/-! ### Writing -/

/-- A value, or null. -/
def ofOption {α : Type} (write : α → Json) : Option α → Json
  | none => null
  | some a => write a

/-- A dictionary as an object. -/
def ofDictionary {α : Type} (write : α → Json) (d : Dictionary α) : Json :=
  object (d.entries.map fun (name, value) => (name, write value))

end Dispatch.Json
