import Dispatch.Text.Utf8
import Mathlib.Algebra.Group.Nat.Defs

/-!
# The order of texts and of their bytes

Texts are compared character by character. Their UTF-8 bytes compare in the same way: the more
bytes a character has, the greater the first of them is, and from there on the bytes hold the
number of the character from its highest digits down.

## Main definitions

* `Text.followers`: how many bytes of a character come after the first.
* `Text.digits`: the lowest digits of a number as such bytes.

## Main results

* `Text.encodeUtf8_lt_iff`: texts are in the order of their bytes.
-/

namespace Dispatch.Text

/-! ### The bytes of a character -/

/-- How many **bytes follow** the first one of the character with a number. -/
def followers (n : Nat) : Nat :=
  if n ≤ 0x7f then 0 else if n ≤ 0x7ff then 1 else if n ≤ 0xffff then 2 else 3

/-- What the first byte is marked with if so many bytes follow. -/
def mark : Nat → Nat
  | 0 => 0
  | 1 => 0xc0
  | 2 => 0xe0
  | _ => 0xf0

/-- The lowest **digits** of a number as bytes that follow, the highest one first. -/
def digits : (count n : Nat) → List UInt8
  | 0, _ => []
  | count + 1, n => UInt8.ofNat (n / 64 ^ count % 64 + 0x80) :: digits count n

/-- The greater a number, the more bytes it takes. -/
theorem followers_cases (n : Nat) :
    n ≤ 0x7f ∧ followers n = 0 ∨ 0x7f < n ∧ n ≤ 0x7ff ∧ followers n = 1 ∨
      0x7ff < n ∧ n ≤ 0xffff ∧ followers n = 2 ∨ 0xffff < n ∧ followers n = 3 := by
  rw [followers]
  split
  · omega
  · split
    · omega
    · split
      · omega
      · omega

theorem number_lt (c : Char) : c.val.toNat < 0x110000 := by
  have valid := c.valid
  rw [UInt32.isValidChar, Nat.isValidChar] at valid
  omega

/-- The bytes of a character are a marked one and the digits that remain. -/
theorem utf8EncodeChar_eq (c : Char) {n : Nat} (number : c.val.toNat = n) :
    String.utf8EncodeChar c =
      UInt8.ofNat (n / 64 ^ followers n + mark (followers n)) :: digits (followers n) n := by
  have valid := number_lt c
  rw [number] at valid
  rw [String.utf8EncodeChar, number]
  rcases followers_cases n with
    ⟨one, count⟩ | ⟨one, two, count⟩ | ⟨two, three, count⟩ | ⟨three, count⟩
  · rw [if_pos one, count]
    simp [mark, digits]
  · have high : n / 64 % 32 = n / 64 := by omega
    rw [if_neg (by omega), if_pos two, count]
    simp [mark, digits, high]
  · have high : n / 4096 % 16 = n / 4096 := by omega
    rw [if_neg (by omega), if_neg (by omega), if_pos three, count]
    simp [mark, digits, high]
  · have high : n / 262144 % 8 = n / 262144 := by omega
    rw [if_neg (by omega), if_neg (by omega), if_neg (by omega), count]
    simp [mark, digits, high]

/-- The first bytes of characters are in the order of how many bytes follow. -/
theorem first_lt {m n : Nat} (lt : m < n) (differ : followers m ≠ followers n) :
    m / 64 ^ followers m + mark (followers m) < n / 64 ^ followers n + mark (followers n) := by
  rcases followers_cases m with ⟨_, hm⟩ | ⟨_, _, hm⟩ | ⟨_, _, hm⟩ | ⟨_, hm⟩ <;>
    rcases followers_cases n with ⟨_, hn⟩ | ⟨_, _, hn⟩ | ⟨_, _, hn⟩ | ⟨_, hn⟩ <;>
      rw [hm, hn] at differ ⊢ <;> simp only [mark, Nat.reducePow] <;> omega

/-! ### Comparing -/

variable {m n : Nat} {x y : List UInt8}

/-- Lists of bytes are in order once their first bytes are. -/
theorem cons_lt_cons_of_lt (hm : m < 256) (hn : n < 256) (lt : m < n) :
    UInt8.ofNat m :: x < UInt8.ofNat n :: y := by
  refine List.cons_lt_cons_iff.mpr (.inl ?_)
  rw [UInt8.lt_iff_toNat_lt, UInt8.toNat_ofNat', UInt8.toNat_ofNat', Nat.mod_eq_of_lt hm,
    Nat.mod_eq_of_lt hn]
  exact lt

/-- Numbers that agree from a digit on are in the order of the digits below. -/
theorem digits_lt (count : Nat) (lt : m < n) (same : m / 64 ^ count = n / 64 ^ count) :
    digits count m ++ x < digits count n ++ y := by
  induction count with
  | zero =>
      rw [Nat.pow_zero, Nat.div_one, Nat.div_one] at same
      omega
  | succ count ih =>
      rw [Nat.pow_succ, ← Nat.div_div_eq_div_mul, ← Nat.div_div_eq_div_mul] at same
      have le : m / 64 ^ count ≤ n / 64 ^ count := Nat.div_le_div_right (Nat.le_of_lt lt)
      rw [digits, digits, List.cons_append, List.cons_append]
      by_cases next : m / 64 ^ count = n / 64 ^ count
      · rw [next]
        exact List.cons_lt_cons_iff.mpr (.inr ⟨rfl, ih next⟩)
      · exact cons_lt_cons_of_lt (by omega) (by omega) (by omega)

/-- Characters are in the order of their bytes, **whatever follows** them. -/
theorem utf8EncodeChar_lt {c d : Char} (lt : c < d) :
    String.utf8EncodeChar c ++ x < String.utf8EncodeChar d ++ y := by
  have valid := number_lt d
  have lt : c.val.toNat < d.val.toNat := lt
  rw [utf8EncodeChar_eq c rfl, utf8EncodeChar_eq d rfl, List.cons_append, List.cons_append]
  generalize c.val.toNat = m at lt ⊢
  generalize d.val.toNat = n at lt valid ⊢
  have bound : n / 64 ^ followers n + mark (followers n) < 256 := by
    rcases followers_cases n with ⟨_, hn⟩ | ⟨_, _, hn⟩ | ⟨_, _, hn⟩ | ⟨_, hn⟩ <;>
      rw [hn] <;> simp only [mark, Nat.reducePow] <;> omega
  by_cases same : followers m = followers n
  · rw [same]
    rcases Nat.lt_or_eq_of_le (Nat.div_le_div_right (c := 64 ^ followers n) (Nat.le_of_lt lt)) with
      less | equal
    · exact cons_lt_cons_of_lt (by omega) bound (by omega)
    · rw [equal]
      exact List.cons_lt_cons_iff.mpr (.inr ⟨rfl, digits_lt _ lt equal⟩)
  · have less := first_lt lt same
    exact cons_lt_cons_of_lt (Nat.lt_trans less bound) bound less

theorem flatMap_utf8EncodeChar_lt {l l' : List Char} (lt : l < l') :
    l.flatMap String.utf8EncodeChar < l'.flatMap String.utf8EncodeChar := by
  induction l generalizing l' with
  | nil =>
      cases l' with
      | nil => exact absurd lt (List.lt_irrefl _)
      | cons d l' =>
          rw [List.flatMap_nil, List.flatMap_cons, utf8EncodeChar_eq d rfl]
          exact List.nil_lt_cons _ _
  | cons c l ih =>
      cases l' with
      | nil => exact absurd lt (List.not_lt_nil _)
      | cons d l' =>
          rw [List.flatMap_cons, List.flatMap_cons]
          rcases List.cons_lt_cons_iff.mp lt with less | ⟨rfl, rest⟩
          · exact utf8EncodeChar_lt less
          · exact List.append_left_lt (ih rest)

/-- Texts are in the order of their **bytes**. -/
theorem encodeUtf8_lt_iff {s t : String} : encodeUtf8 s < encodeUtf8 t ↔ s < t := by
  constructor
  · intro lt
    refine String.not_le.mp fun le => ?_
    by_cases same : s = t
    · rw [same] at lt
      exact List.lt_irrefl _ lt
    · have less : t < s := String.not_le.mp fun le' => same (String.le_antisymm le' le)
      exact List.lt_asymm lt (flatMap_utf8EncodeChar_lt (String.lt_iff.mp less))
  · intro lt
    exact flatMap_utf8EncodeChar_lt (String.lt_iff.mp lt)

end Dispatch.Text
