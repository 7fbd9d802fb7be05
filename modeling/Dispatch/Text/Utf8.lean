/-!
# Reading bytes as text

File contents arrive as bytes. They are read as UTF-8, and what is not UTF-8 becomes the
replacement character U+FFFD: one for each longest run of bytes that could still have begun a
character.

## Main definitions

* `encodeUtf8`: the bytes of a text.
* `decodeUtf8`: the text of any bytes.
* `ofUtf8?`: the text of bytes in which nothing is replaced.
-/

namespace Dispatch.Text

/-- The UTF-8 bytes of a text. -/
def encodeUtf8 (s : String) : List UInt8 := s.toList.flatMap String.utf8EncodeChar

/-- The character that stands for bytes that are not UTF-8. -/
def replacement : Char := '\uFFFD'

/-- The number in the low six bits of a continuation byte. -/
def continuation (b : UInt8) : Nat := b.toNat % 0x40

/-- A byte of the form `10xxxxxx`. -/
def isContinuation (b : UInt8) : Bool := 0x80 ≤ b.toNat && b.toNat ≤ 0xBF

/-- What a **leading byte** announces: how many bytes follow it and the range of the first of
them. The narrower ranges keep out overlong forms, surrogates and numbers past U+10FFFF. -/
def leading (b : UInt8) : Option (Nat × Nat × Nat) :=
  let n := b.toNat
  if 0xC2 ≤ n && n ≤ 0xDF then some (1, 0x80, 0xBF)
  else if n = 0xE0 then some (2, 0xA0, 0xBF)
  else if n = 0xED then some (2, 0x80, 0x9F)
  else if 0xE1 ≤ n && n ≤ 0xEF then some (2, 0x80, 0xBF)
  else if n = 0xF0 then some (3, 0x90, 0xBF)
  else if 0xF1 ≤ n && n ≤ 0xF3 then some (3, 0x80, 0xBF)
  else if n = 0xF4 then some (3, 0x80, 0x8F)
  else none

/-- The character that a sequence of bytes begins with and how many bytes after the first belong
to it. -/
def firstCharacter (b : UInt8) (rest : List UInt8) : Char × Nat :=
  if b.toNat < 0x80 then (Char.ofNat b.toNat, 0)
  else match leading b with
    | none => (replacement, 0)
    | some (count, low, high) =>
      match rest with
      | [] => (replacement, 0)
      | c :: rest =>
        if !(low ≤ c.toNat && c.toNat ≤ high) then (replacement, 0)
        else if count = 1 then (Char.ofNat (b.toNat % 0x20 * 0x40 + continuation c), 1)
        else match rest with
          | [] => (replacement, 1)
          | d :: rest =>
            let two := continuation c * 0x40 + continuation d
            if !isContinuation d then (replacement, 1)
            else if count = 2 then (Char.ofNat (b.toNat % 0x10 * 0x1000 + two), 2)
            else match rest with
              | [] => (replacement, 2)
              | e :: _ =>
                if !isContinuation e then (replacement, 2)
                else (Char.ofNat (b.toNat % 8 * 0x40000 + two * 0x40 + continuation e), 3)

/-- Reads bytes as UTF-8, replacing what is not UTF-8. -/
def decodeUtf8 : List UInt8 → List Char
  | [] => []
  | b :: rest =>
    let (c, used) := firstCharacter b rest
    c :: decodeUtf8 (rest.drop used)
termination_by bytes => bytes.length
decreasing_by rw [List.length_drop, List.length_cons]; omega

/-- The text of a file's bytes. -/
def ofBytes (bytes : List UInt8) : String := String.ofList (decodeUtf8 bytes)

/-- The text of bytes that **are UTF-8**; of others there is none. -/
def ofUtf8? (bytes : List UInt8) : Option String :=
  let text := ofBytes bytes
  if encodeUtf8 text = bytes then some text else none

end Dispatch.Text
