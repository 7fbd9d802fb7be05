import Dispatch.Proofs.Text.ByteOrder

/-!
# Reading the bytes of a text

The bytes of a text are read as the text. The first byte of a character announces how many follow
it, and the second one is within the range that keeps out what is no character.

## Main results

* `Text.decodeUtf8_utf8EncodeChar`: a character is read off its bytes, whatever follows them.
* `Text.ofBytes_encodeUtf8`: a text is read off its bytes.
* `Text.ofUtf8?_eq_some`: which bytes are read without replacing any.
* `Text.mem_of_mem_encodeUtf8`: a byte of ASCII in a text is one of its characters.
-/

namespace Dispatch.Text

variable {n : Nat} {rest : List UInt8}

/-! ### The first character -/

theorem toNat_ofNat_byte (small : n < 256) : (UInt8.ofNat n).toNat = n := by
  rw [UInt8.toNat_ofNat', Nat.mod_eq_of_lt small]

/-- The byte of a digit **continues** a character, and the digit is read off it. -/
theorem continuation_digit (n : Nat) : continuation (UInt8.ofNat (n % 64 + 0x80)) = n % 64 := by
  rw [continuation, toNat_ofNat_byte (by omega)]
  omega

theorem isContinuation_digit (n : Nat) : isContinuation (UInt8.ofNat (n % 64 + 0x80)) = true := by
  rw [isContinuation, toNat_ofNat_byte (by omega)]
  simp only [Bool.and_eq_true, decide_eq_true_eq]
  omega

/-- The first byte of a character that takes two **announces** one more. -/
theorem leading_two (more : 0x7f < n) (most : n ≤ 0x7ff) :
    leading (UInt8.ofNat (n / 64 + 0xc0)) = some (1, 0x80, 0xBF) := by
  rw [leading, toNat_ofNat_byte (by omega)]
  simp only [Bool.and_eq_true, decide_eq_true_eq]
  rw [if_pos (by omega)]

/-- The first byte of a character that takes three **announces** two more, and the next one is in
the range that it announces. -/
theorem leading_three (valid : n.isValidChar) (more : 0x7ff < n) (most : n ≤ 0xffff) :
    ∃ low high, leading (UInt8.ofNat (n / 4096 + 0xe0)) = some (2, low, high) ∧
      low ≤ n / 64 % 64 + 0x80 ∧ n / 64 % 64 + 0x80 ≤ high := by
  rw [Nat.isValidChar] at valid
  rw [leading, toNat_ofNat_byte (by omega)]
  simp only [Bool.and_eq_true, decide_eq_true_eq]
  rw [if_neg (by omega)]
  split
  · exact ⟨_, _, rfl, by omega, by omega⟩
  · split
    · exact ⟨_, _, rfl, by omega, by omega⟩
    · rw [if_pos (by omega)]
      exact ⟨_, _, rfl, by omega, by omega⟩

/-- The first byte of a character that takes four **announces** three more, and the next one is in
the range that it announces. -/
theorem leading_four (valid : n.isValidChar) (more : 0xffff < n) :
    ∃ low high, leading (UInt8.ofNat (n / 262144 + 0xf0)) = some (3, low, high) ∧
      low ≤ n / 4096 % 64 + 0x80 ∧ n / 4096 % 64 + 0x80 ≤ high := by
  rw [Nat.isValidChar] at valid
  rw [leading, toNat_ofNat_byte (by omega)]
  simp only [Bool.and_eq_true, decide_eq_true_eq]
  rw [if_neg (by omega), if_neg (by omega), if_neg (by omega), if_neg (by omega)]
  split
  · exact ⟨_, _, rfl, by omega, by omega⟩
  · split
    · exact ⟨_, _, rfl, by omega, by omega⟩
    · rw [if_pos (by omega)]
      exact ⟨_, _, rfl, by omega, by omega⟩

/-- The character with a number is **read off** its bytes, whatever follows them. -/
theorem firstCharacter_number (valid : n.isValidChar) (rest : List UInt8) :
    firstCharacter (UInt8.ofNat (n / 64 ^ followers n + mark (followers n)))
      (digits (followers n) n ++ rest) = (Char.ofNat n, followers n) := by
  have bound : n < 0x110000 := by
    rw [Nat.isValidChar] at valid
    omega
  rcases followers_cases n with
    ⟨one, count⟩ | ⟨one, two, count⟩ | ⟨two, three, count⟩ | ⟨three, count⟩ <;> rw [count] <;>
    simp only [mark, digits, Nat.reducePow, Nat.div_one, Nat.add_zero, List.cons_append,
      List.nil_append, firstCharacter]
  · rw [toNat_ofNat_byte (by omega), if_pos (by omega)]
  · have second : (UInt8.ofNat (n % 64 + 0x80)).toNat = n % 64 + 0x80 :=
      toNat_ofNat_byte (by omega)
    rw [toNat_ofNat_byte (by omega), if_neg (by omega), leading_two one two]
    simp only [second, continuation_digit]
    rw [if_neg (by simp; omega), if_pos trivial]
    congr 2
    omega
  · obtain ⟨low, high, announced, above, below⟩ := leading_three valid two three
    have second : (UInt8.ofNat (n / 64 % 64 + 0x80)).toNat = n / 64 % 64 + 0x80 :=
      toNat_ofNat_byte (by omega)
    rw [toNat_ofNat_byte (by omega), if_neg (by omega), announced]
    simp only [second, continuation_digit, isContinuation_digit]
    rw [if_neg (by simp; omega), if_neg (by omega), if_neg (by simp), if_pos trivial]
    congr 2
    omega
  · obtain ⟨low, high, announced, above, below⟩ := leading_four valid three
    have second : (UInt8.ofNat (n / 4096 % 64 + 0x80)).toNat = n / 4096 % 64 + 0x80 :=
      toNat_ofNat_byte (by omega)
    rw [toNat_ofNat_byte (by omega), if_neg (by omega), announced]
    simp only [second, continuation_digit, isContinuation_digit]
    rw [if_neg (by simp; omega), if_neg (by omega), if_neg (by simp), if_neg (by omega),
      if_neg (by simp)]
    congr 2
    omega

theorem length_digits (count n : Nat) : (digits count n).length = count := by
  induction count with
  | zero => rfl
  | succ count ih => rw [digits, List.length_cons, ih]

/-- A character is read off its bytes, **whatever follows** them. -/
theorem decodeUtf8_utf8EncodeChar (c : Char) (rest : List UInt8) :
    decodeUtf8 (String.utf8EncodeChar c ++ rest) = c :: decodeUtf8 rest := by
  have whole : Char.ofNat c.val.toNat = c := Char.ofNat_toNat c
  rw [utf8EncodeChar_eq c rfl, List.cons_append, decodeUtf8, firstCharacter_number c.valid, whole]
  simp only [List.drop_left' (length_digits _ _)]

/-- A text is **read off its bytes**. -/
theorem ofBytes_encodeUtf8 (s : String) : ofBytes (encodeUtf8 s) = s := by
  have all (cs : List Char) : decodeUtf8 (cs.flatMap String.utf8EncodeChar) = cs := by
    induction cs with
    | nil => rw [List.flatMap_nil, decodeUtf8]
    | cons c cs ih => rw [List.flatMap_cons, decodeUtf8_utf8EncodeChar, ih]
  rw [ofBytes, encodeUtf8, all, String.ofList_toList]

/-- Bytes are read without replacing any if they are **the bytes of the text**, and only then. -/
theorem ofUtf8?_eq_some {bytes : List UInt8} {s : String} :
    ofUtf8? bytes = some s ↔ bytes = encodeUtf8 s := by
  rw [ofUtf8?]
  constructor
  · intro read
    split at read
    · next same => rw [← Option.some.inj read, same]
    · cases read
  · rintro rfl
    simp only [ofBytes_encodeUtf8, if_true]

/-! ### ASCII -/

/-- A character of ASCII **is a byte**. -/
theorem utf8EncodeChar_ascii {c : Char} (ascii : c.toNat < 0x80) :
    String.utf8EncodeChar c = [UInt8.ofNat c.toNat] := by
  have number : c.val.toNat = c.toNat := rfl
  have alone : followers c.toNat = 0 := by
    rw [followers, if_pos (by omega)]
  rw [utf8EncodeChar_eq c number, alone]
  simp [mark, digits]

/-- The bytes of a text of ASCII are **its characters**. -/
theorem encodeUtf8_ascii {cs : List Char} (ascii : ∀ c ∈ cs, c.toNat < 0x80) :
    encodeUtf8 (String.ofList cs) = cs.map fun c => UInt8.ofNat c.toNat := by
  rw [encodeUtf8, String.toList_ofList]
  induction cs with
  | nil => rfl
  | cons c cs ih =>
      obtain ⟨first, ascii⟩ := List.forall_mem_cons.mp ascii
      rw [List.flatMap_cons, utf8EncodeChar_ascii first, ih ascii, List.map_cons,
        List.singleton_append]

theorem le_of_mem_digits {count : Nat} {b : UInt8} (mem : b ∈ digits count n) :
    0x80 ≤ b.toNat := by
  induction count with
  | zero => cases mem
  | succ count ih =>
      rw [digits, List.mem_cons] at mem
      rcases mem with rfl | mem
      · rw [toNat_ofNat_byte (by omega)]
        omega
      · exact ih mem

/-- A character that is not of ASCII has **no byte** of ASCII. -/
theorem le_of_mem_utf8EncodeChar {c : Char} {b : UInt8} (beyond : 0x80 ≤ c.toNat)
    (mem : b ∈ String.utf8EncodeChar c) : 0x80 ≤ b.toNat := by
  have number : c.val.toNat = c.toNat := rfl
  have valid := number_lt c
  rw [number] at valid
  rw [utf8EncodeChar_eq c number, List.mem_cons] at mem
  rcases mem with rfl | later
  · rcases followers_cases c.toNat with
      ⟨one, count⟩ | ⟨one, two, count⟩ | ⟨two, three, count⟩ | ⟨three, count⟩ <;> rw [count] <;>
      simp only [mark, Nat.reducePow]
    · omega
    all_goals
      rw [toNat_ofNat_byte (by omega)]
      omega
  · exact le_of_mem_digits later

/-- A byte of ASCII in a text is **one of its characters**. -/
theorem mem_of_mem_encodeUtf8 {s : String} {b : UInt8} (ascii : b.toNat < 0x80)
    (mem : b ∈ encodeUtf8 s) : Char.ofNat b.toNat ∈ s.toList := by
  obtain ⟨c, inside, mem⟩ := List.mem_flatMap.mp mem
  by_cases own : c.toNat < 0x80
  · rw [utf8EncodeChar_ascii own, List.mem_singleton] at mem
    have whole : Char.ofNat c.toNat = c := Char.ofNat_toNat c
    rw [mem, toNat_ofNat_byte (by omega), whole]
    exact inside
  · have le := le_of_mem_utf8EncodeChar (Nat.le_of_not_lt own) mem
    omega

end Dispatch.Text
