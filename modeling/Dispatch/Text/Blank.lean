/-!
# White space

Which characters count as white space, and removing them from the ends of a text. The class is
the Unicode property `White_Space`, which has twenty-five members.

## Main definitions

* `isBlank`: membership in the class.
* `trim`: a text without its leading and trailing white space.
* `Tight`: a text neither starts nor ends with white space.

## Main results

* `trim_eq_self`: a text that neither starts nor ends with white space is its own trimmed form.
* `tight_trim`: trimming leaves such a text.
-/

namespace Dispatch.Text

/-- A **blank** is a character with the Unicode property `White_Space`. -/
def isBlank (c : Char) : Bool :=
  let n := c.toNat
  (0x9 ≤ n && n ≤ 0xD) || n == 0x20 || n == 0x85 || n == 0xA0 || n == 0x1680 ||
    (0x2000 ≤ n && n ≤ 0x200A) || n == 0x2028 || n == 0x2029 || n == 0x202F || n == 0x205F ||
    n == 0x3000

/-- The characters left after the blanks at the front are dropped. -/
def trimStart (s : List Char) : List Char := s.dropWhile isBlank

/-- The characters left after the blanks at the back are dropped. -/
def trimEnd (s : List Char) : List Char := (s.reverse.dropWhile isBlank).reverse

/-- The characters left after the blanks at both ends are dropped. -/
def trim (s : List Char) : List Char := trimEnd (trimStart s)

/-- `trim` on strings. -/
def trimmed (s : String) : String := String.ofList (trim s.toList)

/-- Every character of the text is a blank; the empty text qualifies. -/
def allBlank (s : String) : Bool := s.toList.all isBlank

/-! ### Trimming what has nothing to trim -/

theorem trimStart_cons_of_not_blank {c : Char} (s : List Char) (h : isBlank c = false) :
    trimStart (c :: s) = c :: s := by
  simp [trimStart, h]

theorem trimEnd_concat_of_not_blank {c : Char} (s : List Char) (h : isBlank c = false) :
    trimEnd (s ++ [c]) = s ++ [c] := by
  simp [trimEnd, h]

@[simp] theorem trim_nil : trim [] = [] := rfl

/-- Trimming changes nothing between two ends that are not blank. -/
theorem trim_eq_self {s : List Char} (first : ∀ c ∈ s.head?, isBlank c = false)
    (last : ∀ c ∈ s.getLast?, isBlank c = false) : trim s = s := by
  cases s with
  | nil => rfl
  | cons c s =>
    have hc : isBlank c = false := first c rfl
    rw [trim, trimStart_cons_of_not_blank s hc]
    rcases List.eq_nil_or_concat (c :: s) with h | ⟨init, d, h⟩
    · simp at h
    · rw [h, List.concat_eq_append] at last ⊢
      exact trimEnd_concat_of_not_blank init (last d (by simp))

/-! ### What trimming leaves -/

/-- A text is **tight** if it neither starts nor ends with white space. -/
structure Tight (s : List Char) : Prop where
  first : ∀ c ∈ s.head?, isBlank c = false
  last : ∀ c ∈ s.getLast?, isBlank c = false

theorem Tight.trim_eq {s : List Char} (h : Tight s) : trim s = s := trim_eq_self h.first h.last

theorem trimEnd_begins (s : List Char) : trimEnd s <+: s := by
  rw [trimEnd, ← List.reverse_suffix, List.reverse_reverse]
  exact List.dropWhile_suffix isBlank

/-- What trimming leaves has been there before. -/
theorem trim_sublist (s : List Char) : (trim s).Sublist s :=
  (trimEnd_begins (trimStart s)).sublist.trans (List.dropWhile_sublist isBlank)

theorem not_blank_of_head?_dropWhile {s : List Char} :
    ∀ c ∈ (s.dropWhile isBlank).head?, isBlank c = false := by
  intro c mem
  have first := List.head?_dropWhile_not isBlank s
  rw [mem] at first
  exact first

/-- Trimming leaves a **tight** text. -/
theorem tight_trim (s : List Char) : Tight (trim s) where
  first c mem := by
    obtain ⟨rest, whole⟩ := trimEnd_begins (trimStart s)
    refine not_blank_of_head?_dropWhile (s := s) c ?_
    rw [← trimStart, ← whole, List.head?_append, ← trim, mem]
    rfl
  last c mem := by
    rw [trim, trimEnd, List.getLast?_reverse] at mem
    exact not_blank_of_head?_dropWhile c mem

/-- A text is tight exactly if there is **nothing to trim**. -/
theorem tight_iff {s : List Char} : Tight s ↔ trim s = s :=
  ⟨Tight.trim_eq, fun same => same ▸ tight_trim s⟩

instance (s : List Char) : Decidable (Tight s) := decidable_of_iff _ tight_iff.symm

/-- Trimming leaves nothing of a **blank** text. -/
theorem trim_of_allBlank {s : String} (blank : allBlank s = true) : trim s.toList = [] := by
  cases left : trim s.toList with
  | nil => rfl
  | cons c rest =>
      have tight := (tight_trim s.toList).first c (by rw [left]; rfl)
      have mem : c ∈ s.toList := (trim_sublist s.toList).subset (left ▸ List.mem_cons_self)
      rw [List.all_eq_true.mp blank c mem] at tight
      cases tight

end Dispatch.Text
