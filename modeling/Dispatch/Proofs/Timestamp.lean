import Dispatch.Proofs.Text.Digits
import Dispatch.Timestamp

/-!
# Points in time read back

The text of a point in time is read as the point in time itself, in every year that can be read at
all. The reader goes through the text once, so there is a lemma for each part of it: what was
written is read, and what comes after it is left. A year has four digits only where it needs no
sign, and a fraction has as many digits as lose nothing.

## Main results

* `Timestamp.parse?_text`: the text of a point in time is read as the point in time.
* `Timestamp.year?_yearText`, `Timestamp.field?_padded`, `Timestamp.nano?_fraction`: the parts.
-/

namespace Dispatch.Timestamp

open Decimal (padded isDigit)

/-! ### Numbers -/

theorem isBlank_of_isDigit {c : Char} (digit : isDigit c = true) : Text.isBlank c = false := by
  simp only [isDigit, Bool.and_eq_true, decide_eq_true_eq, Char.le_def, UInt32.le_iff_toNat_le]
    at digit
  obtain ⟨least, most⟩ := digit
  have low : 48 ≤ c.toNat := least
  have high : c.toNat ≤ 57 := most
  simp only [Text.isBlank, Bool.or_eq_false_iff, Bool.and_eq_false_iff, decide_eq_false_iff_not,
    beq_eq_false_iff_ne]
  omega

/-- A written number begins with a **digit**. -/
theorem exists_padded_eq (width n : Nat) :
    ∃ c cs, padded width n = c :: cs ∧ isDigit c = true := by
  obtain ⟨c, cs, digits⟩ := List.exists_cons_of_ne_nil (Decimal.padded_ne_nil width n)
  have mem : c ∈ padded width n := by
    rw [digits]
    exact List.mem_cons_self
  exact ⟨c, cs, digits, Decimal.isDigit_of_mem_padded mem⟩

theorem trimStart_padded (width n : Nat) (rest : List Char) :
    Text.trimStart (padded width n ++ rest) = padded width n ++ rest := by
  obtain ⟨c, cs, digits, digit⟩ := exists_padded_eq width n
  rw [digits, List.cons_append, Text.trimStart_cons_of_not_blank _ (isBlank_of_isDigit digit)]

theorem takeWhile_padded (width n : Nat) {rest : List Char}
    (ends : ∀ c ∈ rest.head?, isDigit c = false) :
    (padded width n ++ rest).takeWhile isDigit = padded width n := by
  rw [List.takeWhile_append_of_pos fun c mem => Decimal.isDigit_of_mem_padded mem]
  cases rest with
  | nil => rw [List.takeWhile_nil, List.append_nil]
  | cons c rest => rw [List.takeWhile_cons_of_neg (by simp [ends c rfl]), List.append_nil]

/-- A written number is read if it has as many digits as may be taken, or if **no digit follows**
it. -/
theorem number?_padded {most width n : Nat} {rest : List Char}
    (fits : (padded width n).length ≤ most)
    (ends : (padded width n).length = most ∨ ∀ c ∈ rest.head?, isDigit c = false) :
    number? most (padded width n ++ rest) = some (n, rest) := by
  have taken : ((padded width n ++ rest).take most).takeWhile isDigit = padded width n := by
    rw [List.take_append, List.take_of_length_le fits]
    refine takeWhile_padded width n ?_
    rcases ends with full | ends
    · simp [full]
    · intro c mem
      refine ends c ?_
      cases rest with
      | nil => simp at mem
      | cons d rest =>
          cases more : most - (padded width n).length with
          | zero => simp [more] at mem
          | succ k => simpa [more] using mem
  have some_digit : (padded width n).isEmpty = false := by
    rw [List.isEmpty_eq_false_iff]
    exact Decimal.padded_ne_nil width n
  simp only [number?, taken, some_digit, Bool.false_eq_true, if_false, Decimal.value_padded,
    List.drop_left]

/-- A month, a day, an hour, a minute or a second. -/
theorem field?_padded {n : Nat} (below : n < 100) (rest : List Char) :
    field? (padded 2 n ++ rest) = some (n, rest) := by
  have two : (padded 2 n).length = 2 := Decimal.length_padded (by decide) below
  rw [field?, trimStart_padded]
  exact number?_padded two.le (.inl two)

/-! ### Years -/

theorem year?_padded {n : Nat} (below : n < 10000) (rest : List Char) :
    year? (padded 4 n ++ rest) = some ((n : Int), rest) := by
  have four : (padded 4 n).length = 4 := Decimal.length_padded (by decide) below
  have number : number? 4 (padded 4 n ++ rest) = some (n, rest) :=
    number?_padded four.le (.inl four)
  obtain ⟨c, cs, digits, digit⟩ := exists_padded_eq 4 n
  rw [year?, trimStart_padded]
  rw [digits, List.cons_append] at number ⊢
  split
  · next same =>
    cases same
    cases digit
  · next same =>
    cases same
    cases digit
  · rw [number, Option.map_some]

theorem number?_signed {n : Nat} {rest : List Char} (ends : ∀ c ∈ rest.head?, isDigit c = false) :
    number? (padded 4 n ++ rest).length (padded 4 n ++ rest) = some (n, rest) := by
  refine number?_padded ?_ (.inr ends)
  rw [List.length_append]
  exact Nat.le_add_right _ _

/-- A year is read, with four digits or **with a sign**. -/
theorem year?_yearText (year : Int) (rest : List Char) :
    year? (yearText year ++ '-' :: rest) = some (year, '-' :: rest) := by
  have ends : ∀ c ∈ ('-' :: rest).head?, isDigit c = false := by
    rintro _ ⟨⟩
    rfl
  unfold yearText
  split
  · next plain =>
    rw [Bool.and_eq_true, decide_eq_true_eq, decide_eq_true_eq] at plain
    rw [year?_padded (by omega), Int.toNat_of_nonneg plain.1]
  · split
    · next before =>
      rw [List.cons_append, year?, Text.trimStart_cons_of_not_blank _ (by decide)]
      simp only [number?_signed ends, Option.map_some, Option.some.injEq, Prod.mk.injEq, and_true]
      omega
    · next after =>
      rw [List.cons_append, year?, Text.trimStart_cons_of_not_blank _ (by decide)]
      simp only [number?_signed ends, Option.map_some, Option.some.injEq, Prod.mk.injEq, and_true]
      omega

/-! ### Separators and fractions -/

theorem mark?_cons {c : Char} (shown : Text.isBlank c = false) (rest : List Char) :
    mark? c (c :: rest) = some rest := by
  rw [mark?, Text.trimStart_cons_of_not_blank _ shown]
  exact if_pos rfl

/-- Three, six or nine digits after the point. -/
theorem nano?_point {width n : Nat} (wide : 0 < width) (most : width ≤ 9) (below : n < 10 ^ width)
    (rest : List Char) :
    nano? ('.' :: (padded width n ++ 'Z' :: rest)) = some (n * 10 ^ (9 - width), 'Z' :: rest) := by
  have length : (padded width n).length = width := Decimal.length_padded wide below
  have digits : (padded width n ++ 'Z' :: rest).takeWhile isDigit = padded width n := by
    refine takeWhile_padded width n ?_
    rintro _ ⟨⟩
    rfl
  have some_digit : (padded width n).isEmpty = false := by
    rw [List.isEmpty_eq_false_iff]
    exact Decimal.padded_ne_nil width n
  have kept : (padded width n).take 9 = padded width n :=
    List.take_of_length_le (length.le.trans most)
  have after : (padded width n ++ 'Z' :: rest).drop width = 'Z' :: rest := List.drop_left' length
  simp only [nano?, digits, some_digit, Bool.false_eq_true, if_false, kept, Decimal.value_padded,
    length, after]
  rfl

/-- The fraction **loses nothing**. -/
theorem nano?_fraction {n : Nat} (below : n < 1000000000) (rest : List Char) :
    nano? (fraction n ++ 'Z' :: rest) = some (n, 'Z' :: rest) := by
  unfold fraction
  split
  · next whole =>
    rw [whole]
    rfl
  · split
    · next millis =>
      have same : n / 1000000 * 10 ^ (9 - 3) = n :=
        Nat.div_mul_cancel (Nat.dvd_of_mod_eq_zero millis)
      rw [List.cons_append, nano?_point (by decide) (by decide) (by omega), same]
    · split
      · next micros =>
        have same : n / 1000 * 10 ^ (9 - 6) = n :=
          Nat.div_mul_cancel (Nat.dvd_of_mod_eq_zero micros)
        rw [List.cons_append, nano?_point (by decide) (by decide) (by omega), same]
      · have same : n * 10 ^ (9 - 9) = n := Nat.mul_one n
        rw [List.cons_append, nano?_point (by decide) (by decide) below, same]

/-! ### Whole texts -/

theorem ofFields?_self (t : Timestamp) :
    ofFields? t.year t.month t.day t.hour t.minute t.second t.nano = some t :=
  dif_pos ⟨t.month_valid, t.day_valid, t.hour_valid, t.minute_valid, t.second_valid, t.nano_valid⟩

theorem daysIn_le (year : Int) (month : Nat) : daysIn year month ≤ 31 := by
  unfold daysIn
  split
  · split <;> decide
  all_goals decide

/-- The text of a point in time is **read as the point in time**. -/
theorem parse?_text {t : Timestamp} (readable : yearInRange t.year = true) :
    parse? t.text = some t := by
  have month : t.month < 100 := t.month_valid.2.trans_lt (by decide)
  have day : t.day < 100 :=
    (t.day_valid.2.trans (daysIn_le t.year t.month)).trans_lt (by decide)
  have hour : t.hour < 100 := t.hour_valid.trans (by decide)
  have minute : t.minute < 100 := t.minute_valid.trans (by decide)
  have second : t.second < 100 := t.second_valid.trans_lt (by decide)
  have dash : Text.isBlank '-' = false := by decide
  have colon : Text.isBlank ':' = false := by decide
  simp only [parse?, text, String.toList_ofList, List.append_assoc, List.cons_append]
  refine Option.bind_eq_some_iff.mpr ⟨_, year?_yearText t.year _, ?_⟩
  refine Option.bind_eq_some_iff.mpr ⟨_, mark?_cons dash _, ?_⟩
  refine Option.bind_eq_some_iff.mpr ⟨_, field?_padded month _, ?_⟩
  refine Option.bind_eq_some_iff.mpr ⟨_, mark?_cons dash _, ?_⟩
  refine Option.bind_eq_some_iff.mpr ⟨_, field?_padded day _, ?_⟩
  refine Option.bind_eq_some_iff.mpr ⟨_, rfl, ?_⟩
  refine Option.bind_eq_some_iff.mpr ⟨_, field?_padded hour _, ?_⟩
  refine Option.bind_eq_some_iff.mpr ⟨_, mark?_cons colon _, ?_⟩
  refine Option.bind_eq_some_iff.mpr ⟨_, field?_padded minute _, ?_⟩
  refine Option.bind_eq_some_iff.mpr ⟨_, mark?_cons colon _, ?_⟩
  refine Option.bind_eq_some_iff.mpr ⟨_, field?_padded second _, ?_⟩
  refine Option.bind_eq_some_iff.mpr ⟨_, nano?_fraction t.nano_valid _, ?_⟩
  refine Option.bind_eq_some_iff.mpr ⟨(0, []), rfl, ?_⟩
  refine Option.bind_eq_some_iff.mpr ⟨t, ofFields?_self t, ?_⟩
  -- The offset is that of universal time, so nothing is shifted.
  rw [if_pos rfl]
  exact if_pos (by rw [readable]; rfl)

end Dispatch.Timestamp
