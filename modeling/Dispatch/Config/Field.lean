import Dispatch.Config.Error
import Dispatch.Kdl.Document
import Dispatch.Task.Settings

/-!
# Fields of a declaration

Each node of a declaration is a field. Its value is in the arguments, the properties or the
children of the node, depending on the type of the field.

## Main definitions

* `Field.text`, `Field.texts`, `Field.flag`, `Field.number`: values in the arguments.
* `Field.resources`: values in the properties.
* `Field.textMap`: values in the children.
-/

namespace Dispatch.Field

open Kdl (Node Value)

/-- The value of a field is wrong. -/
def wrong {α : Type} (field reason : String) : Except ConfigError α :=
  .error (.invalidValue field reason)

/-- The first argument, which must be a **text**. -/
def text (n : Node) : Except ConfigError String :=
  match n.arguments.head?.bind Value.text? with
  | some s => .ok s
  | none => wrong n.name "expected a string argument"

/-- All arguments, which must be **texts**. -/
def texts (n : Node) : Except ConfigError (List String) :=
  n.arguments.mapM fun
    | .text s => .ok s
    | v => wrong n.name (v.written ++ " is not a string")

/-- A **flag**: set by standing there, or to the truth value that is its first argument. -/
def flag (n : Node) : Except ConfigError Bool :=
  match n.arguments.head? with
  | none => .ok true
  | some (.bool b) => .ok b
  | some _ => wrong n.name "expected #true or #false"

/-- A natural number below the limit. -/
def natural (limit : Nat) (field : String) : Value → Except ConfigError Nat
  | .int n =>
    if 0 ≤ n ∧ n < limit then .ok n.toNat
    else wrong field (Decimal.ofInt n ++ " is out of range")
  | v => wrong field (v.written ++ " is not an integer")

/-- The first argument, which must be a **number** of at most 64 bits. -/
def number (n : Node) : Except ConfigError UInt64 :=
  match n.arguments.head? with
  | none => wrong n.name "expected an integer argument"
  | some v => do return UInt64.ofNat (← natural UInt64.size n.name v)

/-- Takes one entry of a node into account that describes resources. -/
def assignResource (node : String) (r : Resources) (e : Kdl.Entry) :
    Except ConfigError Resources := do
  match e.name with
  | none => wrong node "expected properties like cpu=1"
  | some key =>
    let field := node ++ "." ++ key
    let amount := UInt32.ofNat (← natural UInt32.size field e.value)
    match key with
    | "cpu" => return { r with cpu := amount }
    | "memory" => return { r with memory := amount }
    | "disk" => return { r with disk := amount }
    | "iops" => return { r with iops := amount }
    | _ => .error (.unknownField field)

/-- **Resources** from the properties; one that is absent is zero. -/
def resources (n : Node) : Except ConfigError Resources :=
  n.entries.foldlM (assignResource n.name) .none

/-- The text for an entry of a dictionary: the first argument of its node. -/
def entryText (n : Node) : String :=
  match n.arguments.head? with
  | none => ""
  | some (.text s) => s
  | some v => v.written

/-- Puts the entry that a child describes into a dictionary. -/
def assignEntry (node : String) (d : Dictionary String) (child : Node) :
    Except ConfigError (Dictionary String) :=
  if d.contains child.name then .error (.duplicate (node ++ "." ++ child.name))
  else .ok (d.insert child.name (entryText child))

/-- A **dictionary of texts** from the children, whose names are the keys. -/
def textMap (n : Node) : Except ConfigError (Dictionary String) :=
  n.children.foldlM (assignEntry n.name) .empty

end Dispatch.Field
