import Dispatch.Dictionary
import Mathlib.Data.List.Nodup

/-!
# The entries of dictionaries

## Main results

* `Dictionary.get?_eq_some`: the value for a key is the one of the entry with the key.
* `Dictionary.contains_iff`: there is a value for exactly the keys.
* `Dictionary.ext_get?`: the values for keys determine a dictionary.
* `Dictionary.isEmpty_iff`: an empty dictionary has no values.
* `Dictionary.get?_map`: a dictionary with all values replaced.
* `Dictionary.length_keys_insert`: a new key makes a dictionary greater by one.
* `Dictionary.entries_insert_last`: a key after all others is put at the end.
-/

namespace Dispatch.Dictionary

variable {α β : Type}

/-- The keys **ascend** strictly. -/
theorem keys_ascending (d : Dictionary α) : d.keys.Pairwise (· < ·) :=
  List.pairwise_map.mpr d.ascending

theorem nodup_keys (d : Dictionary α) : d.keys.Nodup := by
  refine d.keys_ascending.imp fun {a b} lt eq => ?_
  rw [eq] at lt
  exact String.lt_irrefl b lt

theorem find_eq_some {key : String} {value : α} :
    ∀ {l : List (String × α)}, (l.map (·.1)).Nodup →
      (find key l = some value ↔ (key, value) ∈ l)
  | [], _ => by simp [find]
  | (k, v) :: rest, distinct => by
    obtain ⟨first, distinct⟩ := List.nodup_cons.mp distinct
    by_cases same : k = key
    · subst same
      rw [find, if_pos rfl, List.mem_cons]
      constructor
      · rintro ⟨⟩
        exact .inl rfl
      · rintro (eq | later)
        · cases eq
          rfl
        · exact absurd (List.mem_map_of_mem (f := (·.1)) later) first
    · rw [find, if_neg same, find_eq_some distinct, List.mem_cons]
      refine ⟨.inr, fun h => h.resolve_left fun eq => same ?_⟩
      cases eq
      rfl

/-- The value for a key is the one of the **entry** with the key. -/
theorem get?_eq_some {d : Dictionary α} {key : String} {value : α} :
    d.get? key = some value ↔ (key, value) ∈ d.entries :=
  find_eq_some d.nodup_keys

theorem mem_keys {d : Dictionary α} {key : String} :
    key ∈ d.keys ↔ ∃ value, d.get? key = some value := by
  simp only [get?_eq_some, keys, List.mem_map]
  constructor
  · rintro ⟨⟨_, value⟩, mem, rfl⟩
    exact ⟨value, mem⟩
  · rintro ⟨value, mem⟩
    exact ⟨(key, value), mem, rfl⟩

/-- There is a value for exactly the **keys**. -/
theorem contains_iff {d : Dictionary α} {key : String} : d.contains key = true ↔ key ∈ d.keys := by
  rw [contains, Option.isSome_iff_exists, mem_keys]

/-- Dictionaries are equal if they have the **same value for each key**. -/
theorem ext_get? {d e : Dictionary α} (same : ∀ key, d.get? key = e.get? key) : d = e := by
  have nodup (d : Dictionary α) : d.entries.Nodup := List.Nodup.of_map _ d.nodup_keys
  refine ext_entries (List.Perm.eq_of_pairwise ?_ d.ascending e.ascending ?_)
  · intro a b _ _ lt gt
    exact absurd (String.lt_trans lt gt) (String.lt_irrefl _)
  · refine (List.perm_ext_iff_of_nodup (nodup d) (nodup e)).mpr fun entry => ?_
    rw [← get?_eq_some, ← get?_eq_some, same]

/-- A dictionary is empty if there is **no value** for any key. -/
theorem isEmpty_iff {d : Dictionary α} : d.isEmpty = true ↔ ∀ key, d.get? key = none := by
  rw [isEmpty, List.isEmpty_iff]
  constructor
  · intro none key
    rw [get?, none]
    rfl
  · intro none
    have same : d = empty := ext_get? none
    rw [same]
    rfl

@[simp] theorem notMem_keys_empty {key : String} : key ∉ (empty : Dictionary α).keys := by
  simp [keys, empty]

theorem find_map (f : String → α → β) (key : String) (l : List (String × α)) :
    find key (l.map fun (k, v) => (k, f k v)) = (find key l).map (f key) := by
  induction l with
  | nil => rfl
  | cons entry rest ih =>
      rw [List.map_cons, find, find]
      by_cases same : entry.1 = key
      · rw [if_pos same, if_pos same, Option.map_some, same]
      · rw [if_neg same, if_neg same, ih]

/-- Replacing all values replaces the **value for a key**. -/
theorem get?_map (f : String → α → β) (d : Dictionary α) (key : String) :
    (d.map f).get? key = (d.get? key).map (f key) :=
  find_map f key d.entries

/-- A **new key** makes a dictionary greater by one. -/
theorem length_keys_insert {d : Dictionary α} {key : String} (new : key ∉ d.keys) (value : α) :
    (d.insert key value).keys.length = d.keys.length + 1 := by
  have same : (d.insert key value).keys.Perm (key :: d.keys) := by
    rw [List.perm_ext_iff_of_nodup (nodup_keys _) (List.nodup_cons.mpr ⟨new, d.nodup_keys⟩)]
    intro k
    rw [mem_keys_insert, List.mem_cons]
  exact same.length_eq

theorem place_last {key : String} (value : α) {l : List (String × α)}
    (last : ∀ entry ∈ l, entry.1 < key) : place key value l = l ++ [(key, value)] := by
  induction l with
  | nil => rfl
  | cons entry rest ih =>
      have before : entry.1 < key := last entry List.mem_cons_self
      have not_before : ¬key < entry.1 := fun after =>
        String.lt_irrefl key (String.lt_trans after before)
      have other : key ≠ entry.1 := fun same => String.lt_irrefl key (same ▸ before)
      rw [place, if_neg not_before, if_neg other,
        ih fun later mem => last later (List.mem_cons_of_mem entry mem), List.cons_append]

/-- A key **after all others** is put at the end. -/
theorem entries_insert_last {d : Dictionary α} {key : String} (value : α)
    (last : ∀ entry ∈ d.entries, entry.1 < key) :
    (d.insert key value).entries = d.entries ++ [(key, value)] :=
  place_last value last

end Dispatch.Dictionary
