/-!
# Dictionaries with text keys

A finite map from texts whose entries are kept in ascending order of their keys, so that two
dictionaries with the same entries are equal and listing one needs no sorting. Texts are ordered
by code points, which is also the order of their UTF-8 bytes.

## Main definitions

* `Dictionary`: a list of entries in strictly ascending order of keys.
* `Dictionary.insert`, `Dictionary.get?`: the operations on single keys.

## Main results

* `Dictionary.get?_insert`: reading a key after an entry was put in.
* `Dictionary.mem_keys_insert`: which keys there are after an entry was put in.
-/

namespace Dispatch

/-- A **dictionary** holds at most one value for each text. -/
structure Dictionary (α : Type) where
  entries : List (String × α)
  ascending : entries.Pairwise fun a b => a.1 < b.1

namespace Dictionary

variable {α β : Type}

theorem ext_entries {d e : Dictionary α} (h : d.entries = e.entries) : d = e := by
  cases d; cases e; cases h; rfl

instance [DecidableEq α] : DecidableEq (Dictionary α) := fun d e =>
  if h : d.entries = e.entries then isTrue (ext_entries h)
  else isFalse fun hde => h (hde ▸ rfl)

/-- The dictionary without entries. -/
def empty : Dictionary α := ⟨[], .nil⟩

instance : Inhabited (Dictionary α) := ⟨empty⟩

/-- There are no entries. -/
def isEmpty (d : Dictionary α) : Bool := d.entries.isEmpty

/-- The keys in ascending order. -/
def keys (d : Dictionary α) : List String := d.entries.map (·.1)

/-- The values in ascending order of their keys. -/
def values (d : Dictionary α) : List α := d.entries.map (·.2)

/-- How many entries there are. -/
def size (d : Dictionary α) : Nat := d.entries.length

/-- The value of the first entry with the key. -/
def find (key : String) : List (String × α) → Option α
  | [] => none
  | (k, v) :: rest => if k = key then some v else find key rest

/-- The value for a key. -/
def get? (d : Dictionary α) (key : String) : Option α := find key d.entries

/-- There is a value for the key. -/
def contains (d : Dictionary α) (key : String) : Bool := (d.get? key).isSome

/-- Puts an entry into an ascending list, in place of one with the same key. -/
def place (key : String) (value : α) : List (String × α) → List (String × α)
  | [] => [(key, value)]
  | (k, v) :: rest =>
    if key < k then (key, value) :: (k, v) :: rest
    else if key = k then (key, value) :: rest
    else (k, v) :: place key value rest

theorem mem_place {key : String} {value : α} {entry : String × α} :
    ∀ {l : List (String × α)}, entry ∈ place key value l → entry = (key, value) ∨ entry ∈ l
  | [], h => .inl (by simpa [place] using h)
  | (k, v) :: rest, h => by
    simp only [place] at h
    split at h
    · simpa using h
    · split at h
      · rcases List.mem_cons.mp h with h | h
        · exact .inl h
        · exact .inr (List.mem_cons_of_mem _ h)
      · rcases List.mem_cons.mp h with h | h
        · exact .inr (h ▸ List.mem_cons_self)
        · exact (mem_place h).imp id (List.mem_cons_of_mem _)

theorem pairwise_place (key : String) (value : α) :
    ∀ {l : List (String × α)}, (l.Pairwise fun a b => a.1 < b.1) →
      (place key value l).Pairwise fun a b => a.1 < b.1
  | [], _ => by simp [place]
  | (k, v) :: rest, h => by
    obtain ⟨above, sorted⟩ := List.pairwise_cons.mp h
    simp only [place]
    split
    · next lt =>
      refine List.pairwise_cons.mpr ⟨fun b hb => ?_, h⟩
      rcases List.mem_cons.mp hb with rfl | hb
      · exact lt
      · exact String.lt_trans lt (above b hb)
    · next ge =>
      split
      · next eq =>
        subst eq
        exact List.pairwise_cons.mpr ⟨above, sorted⟩
      · next ne =>
        have lt : k < key := by
          rcases String.le_total k key with le | le
          · exact String.not_le.mp fun le' => ne (String.le_antisymm le' le)
          · exact absurd (String.not_le.mp fun le' => ne (String.le_antisymm le le')) ge
        refine List.pairwise_cons.mpr ⟨fun b hb => ?_, pairwise_place key value sorted⟩
        rcases mem_place hb with rfl | hb
        · exact lt
        · exact above b hb

/-- The dictionary with the value for the key, in place of any value that was there. -/
def insert (d : Dictionary α) (key : String) (value : α) : Dictionary α :=
  ⟨place key value d.entries, pairwise_place key value d.ascending⟩

/-- The dictionary with the given entries; of two with one key the later counts. -/
def ofList (l : List (String × α)) : Dictionary α :=
  l.foldl (fun d entry => d.insert entry.1 entry.2) empty

/-- The dictionary with every value replaced. -/
def map (f : String → α → β) (d : Dictionary α) : Dictionary β :=
  ⟨d.entries.map fun (k, v) => (k, f k v), List.pairwise_map.mpr (d.ascending.imp fun h => h)⟩

/-! ### Reading after writing -/

theorem find_place (key : String) (value : α) (key' : String) :
    ∀ l : List (String × α),
      find key' (place key value l) = if key = key' then some value else find key' l
  | [] => by simp [place, find]
  | (k, v) :: rest => by
    simp only [place]
    split
    · next => simp [find]
    · next ge =>
      split
      · next eq => subst eq; by_cases h : key = key' <;> simp [find, h]
      · next ne =>
        simp only [find, find_place key value key' rest]
        by_cases h : key = key'
        · subst h; simp [Ne.symm ne]
        · simp [h]

/-- An inserted value is read back, and the other keys keep theirs. -/
theorem get?_insert (d : Dictionary α) (key key' : String) (value : α) :
    (d.insert key value).get? key' = if key = key' then some value else d.get? key' :=
  find_place key value key' d.entries

@[simp] theorem get?_empty (key : String) : (empty : Dictionary α).get? key = none := rfl

theorem mem_keys_place (key : String) (value : α) (key' : String) :
    ∀ l : List (String × α),
      key' ∈ (place key value l).map (·.1) ↔ key' = key ∨ key' ∈ l.map (·.1)
  | [] => by simp [place]
  | (k, v) :: rest => by
    simp only [place]
    split
    · simp
    · split
      · next eq => subst eq; simp
      · simp only [List.map_cons, List.mem_cons, mem_keys_place key value key' rest]
        constructor <;> rintro (h | h | h) <;> simp [h]

theorem mem_keys_insert (d : Dictionary α) (key key' : String) (value : α) :
    key' ∈ (d.insert key value).keys ↔ key' = key ∨ key' ∈ d.keys :=
  mem_keys_place key value key' d.entries

end Dictionary

end Dispatch
