import Dispatch.Decimal.Binary64

/-!
# JSON values

The values of the format that requests, answers and stored metadata are written in. Whole numbers
and numbers with a fraction are different kinds of values, because a field for a count accepts
only the former.

## Main definitions

* `Json`: the values.
* `Json.member?`: the member of an object; of two with one name the later counts.
* `Json.canonical`: the value with every object's members in ascending order of their names.
-/

namespace Dispatch

/-- A **JSON value**. The members of an object are in the order in which they were written. -/
inductive Json where
  | null
  | bool (value : Bool)
  | int (value : Int)
  | float (value : Binary64)
  | text (value : String)
  | array (items : List Json)
  | object (members : List (String × Json))
deriving Inhabited, Repr

namespace Json

/-- The last member with the name. -/
def lastNamed (name : String) (members : List (String × Json)) : Option Json :=
  (members.reverse.find? (·.1 = name)).map (·.2)

/-- The member of an object with the name, if the value is an object that has one. -/
def member? (name : String) : Json → Option Json
  | object members => lastNamed name members
  | _ => none

/-- The member with the name, or null if there is none. -/
def field (name : String) (j : Json) : Json := (j.member? name).getD null

/-- Puts a member into a list in ascending order, in place of one with the same name. -/
def placeMember (name : String) (value : Json) : List (String × Json) → List (String × Json)
  | [] => [(name, value)]
  | (n, v) :: rest =>
    if name < n then (name, value) :: (n, v) :: rest
    else if name = n then (name, value) :: rest
    else (n, v) :: placeMember name value rest

mutual

/-- The value with the members of every object in ascending order of their names. Of several
with one name only the last is kept. -/
def canonical : Json → Json
  | array items => array (canonicalItems items)
  | object members => object (canonicalMembers members [])
  | j => j

/-- `canonical` on the items of an array. -/
def canonicalItems : List Json → List Json
  | [] => []
  | item :: items => canonical item :: canonicalItems items

/-- `canonical` on members, which are put into those already in order. -/
def canonicalMembers : List (String × Json) → List (String × Json) → List (String × Json)
  | [], done => done
  | (name, value) :: members, done =>
    canonicalMembers members (placeMember name (canonical value) done)

end

/-! ### Equality -/

mutual

/-- Whether two values are written alike. -/
def same : Json → Json → Bool
  | null, null => true
  | bool a, bool b => a = b
  | int a, int b => a = b
  | float a, float b => a = b
  | text a, text b => a = b
  | array a, array b => sameItems a b
  | object a, object b => sameMembers a b
  | _, _ => false

/-- `same` on the items of arrays. -/
def sameItems : List Json → List Json → Bool
  | [], [] => true
  | a :: as, b :: bs => same a b && sameItems as bs
  | _, _ => false

/-- `same` on the members of objects. -/
def sameMembers : List (String × Json) → List (String × Json) → Bool
  | [], [] => true
  | (m, a) :: as, (n, b) :: bs => m = n && same a b && sameMembers as bs
  | _, _ => false

end

end Json

end Dispatch
