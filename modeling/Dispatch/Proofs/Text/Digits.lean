import Dispatch.Identifier
import Dispatch.Decimal.Integer
import Mathlib.Data.List.Induction
import Mathlib.Tactic.IntervalCases
import Mathlib.Tactic.Ring

/-!
# Digits read back

A number that was written in decimal or in hexadecimal digits is read back as itself, whatever
zeros were written before it. A width that is large enough for a number is met exactly, so that a
reader who counts on it finds the end of the number.

## Main results

* `Decimal.value_padded`, `Id.hexNumber?_hexPadded`: the number is read back.
* `Decimal.length_padded`, `Id.length_hexPadded`: the width is met.
* `Id.hexNumber?_append`: digits one after the other are one number.
-/

namespace Dispatch

namespace Decimal

theorem value_eq_ofDigitChars (cs : List Char) : value cs = Nat.ofDigitChars 10 cs 0 := rfl

@[simp] theorem value_digits (n : Nat) : value (digits n) = n :=
  Nat.ofDigitChars_toDigits (by decide) (by decide)

/-- The number is read back, whatever **zeros** were put before it. -/
@[simp] theorem value_padded (width n : Nat) : value (padded width n) = n := by
  rw [padded, value_eq_ofDigitChars, Nat.ofDigitChars_append, Nat.ofDigitChars_replicate_zero,
    Nat.mul_zero]
  exact value_digits n

theorem isDigit_of_mem_padded {width n : Nat} {c : Char} (mem : c ∈ padded width n) :
    isDigit c = true := by
  rcases List.mem_append.mp mem with zero | digit
  · rw [List.eq_of_mem_replicate zero]
    decide
  · exact Nat.isDigit_of_mem_toDigits (by decide) (by decide) digit

theorem length_digits_le {width n : Nat} (wide : 0 < width) (below : n < 10 ^ width) :
    (digits n).length ≤ width :=
  (Nat.length_toDigits_le_iff (by decide) wide).mpr below

/-- A width that is large enough for the number is **met**. -/
theorem length_padded {width n : Nat} (wide : 0 < width) (below : n < 10 ^ width) :
    (padded width n).length = width := by
  have fits := length_digits_le wide below
  simp only [padded, List.length_append, List.length_replicate]
  omega

theorem padded_ne_nil (width n : Nat) : padded width n ≠ [] :=
  List.append_ne_nil_of_right_ne_nil _ (List.ne_nil_of_length_pos Nat.length_toDigits_pos)

end Decimal

namespace Id

/-! ### Hexadecimal digits -/

theorem hexValue?_hexDigit {d : Nat} (below : d < 16) : hexValue? (Text.hexDigit d) = some d := by
  interval_cases d <;> rfl

theorem hexNumber?_concat (cs : List Char) (c : Char) :
    hexNumber? (cs ++ [c]) = do return 16 * (← hexNumber? cs) + (← hexValue? c) := by
  rw [hexNumber?, List.foldl_append]
  rfl

/-- Digits **one after the other** are one number, in which those in front count for more. -/
theorem hexNumber?_append {front back : List Char} {m n : Nat}
    (front_number : hexNumber? front = some m) (back_number : hexNumber? back = some n) :
    hexNumber? (front ++ back) = some (m * 16 ^ back.length + n) := by
  induction back using List.reverseRecOn generalizing n with
  | nil =>
      cases back_number
      simpa using front_number
  | append_singleton back c ih =>
      rw [hexNumber?_concat] at back_number
      obtain ⟨k, before, back_number⟩ := Option.bind_eq_some_iff.mp back_number
      obtain ⟨d, last, back_number⟩ := Option.bind_eq_some_iff.mp back_number
      cases back_number
      rw [← List.append_assoc, hexNumber?_concat, ih before, last]
      simp only [Option.bind_eq_bind, Option.bind_some, Option.pure_def, List.length_append,
        List.length_singleton, Option.some.injEq]
      ring

theorem hexNumber?_replicate_zero (k : Nat) : hexNumber? (List.replicate k '0') = some 0 := by
  induction k with
  | zero => rfl
  | succ k ih =>
      rw [List.replicate_succ', hexNumber?_concat, ih]
      rfl

theorem hexNumber?_hexDigits (n : Nat) : hexNumber? (Text.hexDigits n) = some n := by
  induction n using Text.hexDigits.induct with
  | case1 n small =>
      rw [Text.hexDigits, if_pos small, ← List.nil_append [Text.hexDigit n], hexNumber?_concat,
        hexValue?_hexDigit small]
      simp [hexNumber?]
  | case2 n large ih =>
      rw [Text.hexDigits, if_neg large, hexNumber?_concat, ih,
        hexValue?_hexDigit (Nat.mod_lt n (by decide))]
      simp only [Option.bind_eq_bind, Option.bind_some, Option.pure_def, Nat.div_add_mod]

/-- The number is read back, whatever **zeros** were put before it. -/
@[simp] theorem hexNumber?_hexPadded (width n : Nat) : hexNumber? (hexPadded width n) = some n := by
  rw [hexPadded, hexNumber?_append (hexNumber?_replicate_zero _) (hexNumber?_hexDigits n)]
  simp

theorem length_hexDigits_pos (n : Nat) : 0 < (Text.hexDigits n).length := by
  rw [Text.hexDigits]
  split <;> simp

theorem length_hexDigits_le_iff {width n : Nat} (wide : 0 < width) :
    (Text.hexDigits n).length ≤ width ↔ n < 16 ^ width := by
  induction width, wide using Nat.le_induction generalizing n with
  | base =>
      rw [Text.hexDigits]
      split
      · simpa using ‹n < 16›
      · have more := length_hexDigits_pos (n / 16)
        simp only [List.length_append, List.length_singleton]
        omega
  | succ width wide ih =>
      rw [Text.hexDigits]
      split
      · next small =>
        have : n < 16 ^ (width + 1) := small.trans_le (Nat.le_self_pow (by omega) 16)
        simp [this]
      · rw [List.length_append, List.length_singleton, Nat.add_le_add_iff_right, ih, Nat.pow_succ]
        omega

/-- A width that is large enough for the number is **met**. -/
theorem length_hexPadded {width n : Nat} (wide : 0 < width) (below : n < 16 ^ width) :
    (hexPadded width n).length = width := by
  have fits := (length_hexDigits_le_iff wide).mpr below
  simp only [hexPadded, List.length_append, List.length_replicate]
  omega

theorem notMem_of_hexNumber? {c : Char} (other : hexValue? c = none) {cs : List Char} {n : Nat}
    (number : hexNumber? cs = some n) : c ∉ cs := by
  induction cs using List.reverseRecOn generalizing n with
  | nil => exact List.not_mem_nil
  | append_singleton cs d ih =>
      rw [hexNumber?_concat] at number
      obtain ⟨k, before, number⟩ := Option.bind_eq_some_iff.mp number
      obtain ⟨v, last, -⟩ := Option.bind_eq_some_iff.mp number
      rw [List.mem_append, List.mem_singleton, not_or]
      refine ⟨ih before, fun same => ?_⟩
      rw [← same, other] at last
      cases last

end Id

end Dispatch
