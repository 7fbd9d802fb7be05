import Dispatch.Identifier
import Dispatch.Text.Utf8

/-!
# Percent-encoding

Addresses hold a limited set of characters. Any byte can be written as a percent sign and two
hexadecimal digits.

## Main definitions

* `Percent.encode`: text with all bytes encoded but those that may stay.
* `Percent.decode`: the bytes that an encoded text stands for.
-/

namespace Dispatch.Percent

/-- The hexadecimal digit for a number below sixteen, upper case. -/
def digit (n : Nat) : Char :=
  if n < 10 then Char.ofNat (0x30 + n) else Char.ofNat (0x41 + (n - 10))

/-- A byte in its encoded form. -/
def encodeByte (b : UInt8) : List Char := ['%', digit (b.toNat / 16), digit (b.toNat % 16)]

/-- The **encoded** form of bytes; those that `keep` allows stand for themselves. -/
def encodeBytes (keep : Char → Bool) (bytes : List UInt8) : List Char :=
  bytes.flatMap fun b =>
    let c := Char.ofNat b.toNat
    if b.toNat < 0x80 && keep c then [c] else encodeByte b

/-- The **encoded** form of a text. -/
def encode (keep : Char → Bool) (s : String) : List Char :=
  encodeBytes keep (Text.encodeUtf8 s)

/-- The byte that a percent sign and two digits stand for. -/
def encodedByte? (b high low : UInt8) : Option UInt8 := do
  if b ≠ 0x25 then none
  let high ← Id.hexValue? (Char.ofNat high.toNat)
  let low ← Id.hexValue? (Char.ofNat low.toNat)
  return UInt8.ofNat (16 * high + low)

/-- The **bytes** that an encoded text stands for. A percent sign without two digits after it
stands for itself. -/
def decode : List UInt8 → List UInt8
  | b :: c :: d :: rest =>
    match encodedByte? b c d with
    | some byte => byte :: decode rest
    | none => b :: decode (c :: d :: rest)
  | rest => rest

/-- The text that an encoded text stands for. -/
def decodeText (s : String) : String := Text.ofBytes (decode (Text.encodeUtf8 s))

/-- A letter or digit of ASCII. -/
def isAlphanumeric (c : Char) : Bool :=
  ('0' ≤ c && c ≤ '9') || ('A' ≤ c && c ≤ 'Z') || ('a' ≤ c && c ≤ 'z')

/-- The characters that never need to be encoded. -/
def isUnreserved (c : Char) : Bool :=
  isAlphanumeric c || c = '-' || c = '_' || c = '.' || c = '~'

end Dispatch.Percent
