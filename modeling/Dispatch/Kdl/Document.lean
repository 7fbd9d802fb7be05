import Dispatch.Kdl.Token

/-!
# KDL documents

A document is a list of nodes. A node has a name, arguments and properties in their order, and
nodes of its own.

## Main definitions

* `Kdl.Entry`, `Kdl.Node`: the parts of a document.
* `Kdl.parse?`: the nodes of a document.
-/

namespace Dispatch.Kdl

/-- An **argument** of a node, or a **property** if it has a name. -/
structure Entry where
  name : Option String
  value : Value

/-- A **node** of a document. -/
inductive Node where
  | mk (name : String) (entries : List Entry) (children : List Node)

namespace Node

/-- The name of a node. -/
def name : Node → String
  | mk name _ _ => name

/-- The arguments and properties of a node. -/
def entries : Node → List Entry
  | mk _ entries _ => entries

/-- The nodes within a node. -/
def children : Node → List Node
  | mk _ _ children => children

/-- The values of the arguments. -/
def arguments (n : Node) : List Value :=
  (n.entries.filter fun e => e.name.isNone).map (·.value)

end Node

/-! ### Parts of a node -/

/-- The elements after the gaps at the front. -/
def dropGaps (ts : List Token) : List Token := ts.dropWhile (· = .gap)

/-- The elements after the gaps and line ends at the front. -/
def dropLines (ts : List Token) : List Token := ts.dropWhile fun t => t = .gap || t = .lineEnd

/-- The elements after a type annotation, if there is one. Types are not kept. -/
def dropType? (ts : List Token) : Option (List Token) :=
  match ts with
  | .openParen :: ts =>
    match dropGaps ts with
    | .text _ :: ts =>
      match dropGaps ts with
      | .closeParen :: ts => some (dropGaps ts)
      | _ => none
    | _ => none
  | ts => some ts

/-- A value, perhaps with a type annotation. -/
def value? (ts : List Token) : Option (Value × List Token) := do
  match ← dropType? ts with
  | .text s :: ts => some (.text s, ts)
  | .literal v :: ts => some (v, ts)
  | _ => none

/-- An argument or a property. -/
def entry? (ts : List Token) : Option (Entry × List Token) :=
  let argument := (value? ts).map fun (v, ts) => (⟨none, v⟩, ts)
  match ts with
  | .text name :: rest =>
    match dropGaps rest with
    | .equals :: rest => (value? (dropGaps rest)).map fun (v, ts) => (⟨some name, v⟩, ts)
    | _ => argument
  | _ => argument

/-- The arguments and properties of a node; there must be a gap before each. One that is
removed from the document must be well formed all the same. -/
def entries? (done : List Entry) (ts : List Token) : Option (List Entry × List Token) :=
  let after := dropGaps ts
  match after with
  | .slashDash :: rest =>
    match dropLines rest with
    | .openBrace :: _ => some (done.reverse, ts)
    | removed =>
      match entry? removed with
      | some (_, rest) => if rest.length < ts.length then entries? done rest else none
      | none => none
  | .text _ :: _ | .literal _ :: _ | .openParen :: _ =>
    if ts.head? = some .gap then
      match entry? after with
      | some (e, rest) => if rest.length < ts.length then entries? (e :: done) rest else none
      | none => none
    else none
  | _ => some (done.reverse, ts)
termination_by ts.length

/-- The elements after what ends a node. A closing brace ends the last node of a block and is
left standing. -/
def dropEnd? (ts : List Token) : Option (List Token) :=
  match ts with
  | [] => some []
  | .lineEnd :: ts => some ts
  | .semicolon :: ts => some ts
  | .closeBrace :: _ => some ts
  | _ => none

/-! ### Nodes -/

mutual

/-- Nodes up to a closing brace or the end, and the elements from there on. -/
def nodes? (ts : List Token) : Option (List Node × List Token) :=
  match dropLines ts with
  | [] => some ([], [])
  | .closeBrace :: rest => some ([], .closeBrace :: rest)
  | .slashDash :: rest =>
    if _shorter : (dropLines rest).length < ts.length then
      match node? (dropLines rest) with
      | some (_, rest) => if rest.length < ts.length then nodes? rest else none
      | none => none
    else none
  | t :: rest =>
    if _shorter : (t :: rest).length ≤ ts.length then
      match node? (t :: rest) with
      | some (n, rest) =>
        if rest.length < ts.length then
          (nodes? rest).map fun (ns, rest) => (n :: ns, rest)
        else none
      | none => none
    else none
termination_by 3 * ts.length + 1
decreasing_by all_goals omega

/-- One node with everything up to its end. -/
def node? (ts : List Token) : Option (Node × List Token) :=
  match dropType? ts with
  | some (.text name :: rest) =>
    match entries? [] rest with
    | some (entries, rest) =>
      if rest.length < ts.length then
        match blocks? none rest with
        | some (children, rest) =>
          (dropEnd? rest).map fun rest => (.mk name entries (children.getD []), rest)
        | none => none
      else none
    | none => none
  | _ => none
termination_by 3 * ts.length
decreasing_by omega

/-- The blocks of nodes after the arguments and properties: at most one that counts, and any
number that are removed from the document. -/
def blocks? (children : Option (List Node)) (ts : List Token) :
    Option (Option (List Node) × List Token) :=
  match dropGaps ts with
  | .openBrace :: rest =>
    if rest.length < ts.length then
      match nodes? rest with
      | some (ns, .closeBrace :: rest) =>
        if children.isSome then none
        else if rest.length < ts.length then blocks? (some ns) rest
        else none
      | _ => none
    else none
  | .slashDash :: rest =>
    match dropLines rest with
    | .openBrace :: rest =>
      if rest.length < ts.length then
        match nodes? rest with
        | some (_, .closeBrace :: rest) =>
          if rest.length < ts.length then blocks? children rest else none
        | _ => none
      else none
    | _ => none
  | rest => some (children, rest)
termination_by 3 * ts.length + 2
decreasing_by all_goals omega

end

/-- The text without a byte order mark at its front. -/
def dropByteOrderMark : List Char → List Char
  | '\uFEFF' :: cs => cs
  | cs => cs

/-- The **nodes of a document**, or `none` if the text is no document. -/
def parse? (s : String) : Option (List Node) := do
  let ts ← tokens? #[] (dropByteOrderMark s.toList)
  match ← nodes? ts with
  | (ns, []) => some ns
  | _ => none

end Dispatch.Kdl
