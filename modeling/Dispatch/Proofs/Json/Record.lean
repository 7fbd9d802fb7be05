import Dispatch.Json.Record
import Dispatch.Proofs.Dictionary
import Mathlib.Tactic.SplitIfs

/-!
# Reading what was written

A value of a field is read back as what was written, if that holds of the values inside it. A field
of a written record is found under its name among the members, of which the last with the name
counts. So to read a whole record back, the names of its fields must differ.

The lemmas are simplification rules. With them a record is read back field by field: `written` is
the view of the members, and a field is looked for from the last member to the first.

## Main results

* `Json.list?_map`, `Json.nullable?_ofOption`, `Json.dictionary?_ofDictionary`: the values inside a
  field decide.
* `Members.required_written`, `Members.optional_written`, `Members.defaulted_written`: the member
  under the name is read.
-/

namespace Dispatch.Json

variable {α : Type} {write : α → Json} {read : Json → Option α}

/-! ### Single values -/

@[simp] theorem string?_text (s : String) : string? (text s) = some s := rfl

@[simp] theorem bool?_bool (b : Bool) : bool? (bool b) = some b := rfl

@[simp] theorem uint32?_toNat (n : UInt32) : uint32? (int n.toNat) = some n := by
  have fits : (0 : Int) ≤ n.toNat ∧ (n.toNat : Int) < UInt32.size :=
    ⟨Int.natCast_nonneg _, Int.ofNat_lt.mpr n.toNat_lt_size⟩
  rw [uint32?, if_pos fits, Int.toNat_natCast, UInt32.ofNat_toNat]

@[simp] theorem uint64?_toNat (n : UInt64) : uint64? (int n.toNat) = some n := by
  have fits : (0 : Int) ≤ n.toNat ∧ (n.toNat : Int) < UInt64.size :=
    ⟨Int.natCast_nonneg _, Int.ofNat_lt.mpr n.toNat_lt_size⟩
  rw [uint64?, if_pos fits, Int.toNat_natCast, UInt64.ofNat_toNat]

@[simp] theorem int64?_toInt (n : Int64) : int64? (int n.toInt) = some n := by
  have fits : -0x8000000000000000 ≤ n.toInt ∧ n.toInt < 0x8000000000000000 :=
    ⟨n.le_toInt, n.toInt_lt⟩
  rw [int64?, Decimal.int64?, if_pos fits, Int64.ofInt_toInt]

/-! ### Values with others inside -/

/-- Null stands for **no value**, so no value may be written as null. -/
theorem nullable?_ofOption {o : Option α} (shown : ∀ a ∈ o, write a ≠ null)
    (back : ∀ a ∈ o, read (write a) = some a) : nullable? read (ofOption write o) = some o := by
  cases o with
  | none => rfl
  | some a =>
      have read_back := back a rfl
      have not_null := shown a rfl
      rw [ofOption]
      cases written : write a with
      | null => exact absurd written not_null
      | bool | int | float | text | array | object =>
          rw [written] at read_back
          rw [nullable?, read_back, Option.map_some]
          simp

@[simp] theorem nullable?_text (o : Option String) :
    nullable? string? (ofOption text o) = some o :=
  nullable?_ofOption (fun _ _ => nofun) fun _ _ => rfl

@[simp] theorem nullable?_bool (o : Option Bool) : nullable? bool? (ofOption bool o) = some o :=
  nullable?_ofOption (fun _ _ => nofun) fun _ _ => rfl

@[simp] theorem nullable?_int64 (o : Option Int64) :
    nullable? int64? (ofOption (fun n => int n.toInt) o) = some o :=
  nullable?_ofOption (fun _ _ => nofun) fun n _ => int64?_toInt n

/-- A **list** is read back if its items are. -/
theorem list?_map {l : List α} (back : ∀ a ∈ l, read (write a) = some a) :
    list? read (array (l.map write)) = some l := by
  rw [list?]
  induction l with
  | nil => rfl
  | cons a l ih =>
      rw [List.map_cons, List.mapM_cons, back a List.mem_cons_self,
        ih fun b mem => back b (List.mem_cons_of_mem a mem)]
      rfl

@[simp] theorem list?_text (l : List String) : list? string? (array (l.map text)) = some l :=
  list?_map fun _ _ => rfl

/-- Entries that are put in **in their order** stay as they are. -/
theorem foldlM_insert {rest : List (String × α)} (back : ∀ e ∈ rest, read (write e.2) = some e.2)
    {d e : Dictionary α} (whole : e.entries = d.entries ++ rest) :
    (rest.map fun (name, value) => (name, write value)).foldlM
      (fun d (name, value) => (read value).map (d.insert name)) d = some e := by
  induction rest generalizing d with
  | nil =>
      rw [List.append_nil] at whole
      exact congrArg some (Dictionary.ext_entries whole.symm)
  | cons entry rest ih =>
      obtain ⟨key, value⟩ := entry
      have ascending := e.ascending
      rw [whole] at ascending
      have last : ∀ entry ∈ d.entries, entry.1 < key := fun entry mem =>
        (List.pairwise_append.mp ascending).2.2 entry mem _ List.mem_cons_self
      rw [List.map_cons, List.foldlM_cons]
      refine Option.bind_eq_some_iff.mpr ⟨d.insert key value, ?_, ?_⟩
      · exact Option.map_eq_some_iff.mpr ⟨value, back _ List.mem_cons_self, rfl⟩
      · refine ih (fun later mem => back later (List.mem_cons_of_mem _ mem)) ?_
        rw [whole, Dictionary.entries_insert_last value last, List.append_assoc,
          List.singleton_append]

/-- A **dictionary** is read back if its values are. -/
theorem dictionary?_ofDictionary {d : Dictionary α}
    (back : ∀ e ∈ d.entries, read (write e.2) = some e.2) :
    dictionary? read (ofDictionary write d) = some d :=
  foldlM_insert back rfl

@[simp] theorem dictionary?_text (d : Dictionary String) :
    dictionary? string? (ofDictionary text d) = some d :=
  dictionary?_ofDictionary fun _ _ => rfl

/-! ### Fields -/

/-- The last member with the name counts. -/
theorem lastNamed_cons (name n : String) (v : Json) (l : List (String × Json)) :
    lastNamed name ((n, v) :: l) = (lastNamed name l).or (if n = name then some v else none) := by
  rw [lastNamed, List.reverse_cons, List.find?_append, lastNamed]
  cases (l.reverse.find? _) <;> by_cases same : n = name <;> simp [same]

theorem lastNamed_eq_none_iff {name : String} {l : List (String × Json)} :
    lastNamed name l = none ↔ name ∉ l.map (·.1) := by
  induction l with
  | nil => simp [lastNamed]
  | cons member l ih =>
      obtain ⟨n, v⟩ := member
      rw [lastNamed_cons, Option.or_eq_none_iff, ih, List.map_cons, List.mem_cons, not_or, and_comm]
      simp [eq_comm]

namespace Members

/-- The view of **written members** as the fields of a record. -/
def written (l : List (String × Json)) : Members := ⟨fun name => lastNamed name l, false⟩

@[simp] theorem members?_object (names : List String) (l : List (String × Json)) :
    members? names (object l) = some (written l) := rfl

variable (name n : String) (v : Json) (l : List (String × Json)) (read : Json → Option α)

theorem lookup_written : (written ((n, v) :: l)).lookup name =
    if name ∈ l.map (·.1) then (written l).lookup name else if n = name then some v else none := by
  simp only [written, lastNamed_cons]
  by_cases later : name ∈ l.map (·.1)
  · rw [if_pos later]
    cases found : lastNamed name l with
    | none => exact absurd later (lastNamed_eq_none_iff.mp found)
    | some w => rfl
  · rw [if_neg later, lastNamed_eq_none_iff.mpr later, Option.none_or]

/-- A field that **must be there** is read from the last member with its name. -/
@[simp] theorem required_written : (written ((n, v) :: l)).required name read =
    if name ∈ l.map (·.1) then (written l).required name read
    else if n = name then read v else none := by
  rw [required, lookup_written, required]
  split_ifs <;> rfl

/-- A field that **may be null or missing**. -/
@[simp] theorem optional_written : (written ((n, v) :: l)).optional name read =
    if name ∈ l.map (·.1) then (written l).optional name read
    else if n = name then nullable? read v else some none := by
  have object (l : List (String × Json)) : (written l).positional = false := rfl
  simp only [optional, lookup_written, object, Bool.false_eq_true, if_false]
  split_ifs <;> rfl

/-- A field that **may be missing** and has a default. -/
@[simp] theorem defaulted_written (default : α) :
    (written ((n, v) :: l)).defaulted name default read =
      if name ∈ l.map (·.1) then (written l).defaulted name default read
      else if n = name then read v else some default := by
  rw [defaulted, lookup_written, defaulted]
  split_ifs <;> rfl

end Members

end Dispatch.Json
