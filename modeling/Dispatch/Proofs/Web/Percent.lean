import Dispatch.Proofs.Text.Utf8
import Dispatch.Web.Percent

/-!
# Percent-encoding and back

A text in its encoded form stands for that text, unless percent signs are left as they are and
there are some in it. The encoded form has no characters but those of the text, percent signs and
digits.

## Main results

* `Percent.decodeText_encode`: decoding an encoded text gives the text.
* `Percent.notMem_encode`: a character that the text has not, and that is no mark of the encoding,
  is not in the encoded form.
-/

namespace Dispatch.Percent

open Text

variable {keep : Char → Bool} {b : UInt8} {bytes rest : List UInt8} {s : String} {c : Char}

/-! ### Digits -/

theorem digit_ascii : ∀ n < 16, (digit n).toNat < 0x80 := by decide

theorem hexValue?_digit : ∀ n < 16, Id.hexValue? (digit n) = some n := by decide

theorem toNat_ofNat_ascii : ∀ n < 0x80, (Char.ofNat n).toNat = n := by decide

theorem byte_ascii (ascii : c.toNat < 0x80) : Char.ofNat (UInt8.ofNat c.toNat).toNat = c := by
  rw [toNat_ofNat_byte (by omega)]
  exact Char.ofNat_toNat c

theorem high_lt (b : UInt8) : b.toNat / 16 < 16 := by
  have := b.toNat_lt
  omega

theorem low_lt (b : UInt8) : b.toNat % 16 < 16 := Nat.mod_lt _ (by decide)

/-! ### Encoded bytes -/

/-- Encoded bytes are **ASCII**. -/
theorem encodeBytes_ascii : ∀ c ∈ encodeBytes keep bytes, c.toNat < 0x80 := by
  intro c mem
  obtain ⟨b, -, mem⟩ := List.mem_flatMap.mp mem
  dsimp only at mem
  split at mem
  · next stays =>
    simp only [Bool.and_eq_true, decide_eq_true_eq] at stays
    rw [List.mem_singleton.mp mem, toNat_ofNat_ascii _ stays.1]
    exact stays.1
  · simp only [encodeByte, List.mem_cons, List.not_mem_nil, or_false] at mem
    rcases mem with rfl | rfl | rfl
    · decide
    · exact digit_ascii _ (high_lt b)
    · exact digit_ascii _ (low_lt b)

/-- A byte that is no percent sign **stands for itself**. -/
theorem decode_cons (plain : b ≠ 0x25) (rest : List UInt8) :
    decode (b :: rest) = b :: decode rest := by
  match rest with
  | [] => rfl
  | [_] => rfl
  | c :: d :: rest =>
    have unencoded : encodedByte? b c d = none := by simp [encodedByte?, plain]
    rw [decode, unencoded]

/-- An encoded byte **stands for the byte**. -/
theorem decode_encodeByte (b : UInt8) (rest : List UInt8) :
    decode ((encodeByte b).map (fun c => UInt8.ofNat c.toNat) ++ rest) = b :: decode rest := by
  have whole : UInt8.ofNat (16 * (b.toNat / 16) + b.toNat % 16) = b := by
    rw [Nat.div_add_mod, UInt8.ofNat_toNat]
  have byte : encodedByte? (UInt8.ofNat '%'.toNat) (UInt8.ofNat (digit (b.toNat / 16)).toNat)
      (UInt8.ofNat (digit (b.toNat % 16)).toNat) = some b := by
    simp only [encodedByte?, byte_ascii (digit_ascii _ (high_lt b)),
      byte_ascii (digit_ascii _ (low_lt b)), hexValue?_digit _ (high_lt b),
      hexValue?_digit _ (low_lt b)]
    exact congrArg some whole
  simp only [encodeByte, List.map_cons, List.map_nil, List.cons_append, List.nil_append]
  rw [decode, byte]

/-- Encoded bytes **stand for the bytes**, if no percent sign among them is left as it is. -/
theorem decode_encodeBytes (clean : keep '%' = true → (0x25 : UInt8) ∉ bytes) :
    decode ((encodeBytes keep bytes).map fun c => UInt8.ofNat c.toNat) = bytes := by
  induction bytes with
  | nil => rfl
  | cons b bytes ih =>
      have later := ih fun kept => List.not_mem_of_not_mem_cons (clean kept)
      rw [encodeBytes, List.flatMap_cons, ← encodeBytes, List.map_append]
      dsimp only
      split
      · next stays =>
        simp only [Bool.and_eq_true, decide_eq_true_eq] at stays
        have same : UInt8.ofNat (Char.ofNat b.toNat).toNat = b := by
          rw [toNat_ofNat_ascii _ stays.1, UInt8.ofNat_toNat]
        have plain : b ≠ 0x25 := by
          rintro rfl
          exact clean stays.2 List.mem_cons_self
        rw [List.map_singleton, same, List.singleton_append, decode_cons plain, later]
      · rw [decode_encodeByte, later]

/-! ### Encoded texts -/

/-- An encoded text **stands for the text**, if no percent sign in it is left as it is. -/
theorem decodeText_encode (clean : keep '%' = true → '%' ∉ s.toList) :
    decodeText (String.ofList (encode keep s)) = s := by
  have bytes : keep '%' = true → (0x25 : UInt8) ∉ encodeUtf8 s := fun kept mem =>
    clean kept (mem_of_mem_encodeUtf8 (by decide) mem)
  rw [decodeText, encode, encodeUtf8_ascii encodeBytes_ascii, decode_encodeBytes bytes,
    ofBytes_encodeUtf8]

/-- A text of nothing but characters of ASCII that stay **is its encoded form**. -/
theorem encode_of_stays {cs : List Char} (stays : ∀ c ∈ cs, c.toNat < 0x80 ∧ keep c = true) :
    encode keep (String.ofList cs) = cs := by
  rw [encode, encodeUtf8_ascii fun c mem => (stays c mem).1]
  induction cs with
  | nil => rfl
  | cons c cs ih =>
      obtain ⟨⟨ascii, own⟩, stays⟩ := List.forall_mem_cons.mp stays
      rw [List.map_cons, encodeBytes, List.flatMap_cons, ← encodeBytes, ih stays]
      dsimp only
      rw [byte_ascii ascii, toNat_ofNat_byte (by omega), if_pos (by simp [ascii, own]),
        List.singleton_append]

/-- A character that the text has not is **not in the encoded form**, unless it is a percent sign or
a digit. -/
theorem notMem_encode (plain : c ≠ '%') (noDigit : ∀ n < 16, c ≠ digit n) (absent : c ∉ s.toList) :
    c ∉ encode keep s := by
  intro mem
  obtain ⟨b, inside, mem⟩ := List.mem_flatMap.mp mem
  dsimp only at mem
  split at mem
  · next stays =>
    simp only [Bool.and_eq_true, decide_eq_true_eq] at stays
    rw [List.mem_singleton.mp mem] at absent
    exact absent (mem_of_mem_encodeUtf8 stays.1 inside)
  · simp only [encodeByte, List.mem_cons, List.not_mem_nil, or_false] at mem
    rcases mem with same | same | same
    · exact plain same
    · exact noDigit _ (high_lt b) same
    · exact noDigit _ (low_lt b) same

end Dispatch.Percent
