/-!
# Punycode

A label of a host name that has characters outside ASCII is written in letters, digits and
hyphens: first its ASCII characters, then, in ascending order, where each of the others goes. Each
place is a number relative to the one before, in digits whose weights adapt to the numbers so far.

## Main definitions

* `Punycode.encode`: the written form of a label.
-/

namespace Dispatch.Punycode

/-- The digit for a number below thirty-six: a letter, or from twenty-six on a decimal digit. -/
def digit (n : Nat) : Char := if n < 26 then Char.ofNat (0x61 + n) else Char.ofNat (0x30 + n - 26)

/-- The **threshold** of a digit, between 1 and 26: a smaller digit ends a number. -/
def threshold (place bias : Nat) : Nat := min 26 (max 1 (place - bias))

theorem threshold_pos (place bias : Nat) : 0 < threshold place bias := by
  unfold threshold; omega

/-- The digits of a number, the least significant first. -/
def number (bias place n : Nat) : List Char :=
  let t := threshold place bias
  if n < t then [digit n]
  else digit (t + (n - t) % (36 - t)) :: number bias (place + 36) ((n - t) / (36 - t))
termination_by n
decreasing_by
  have := threshold_pos place bias
  have := Nat.div_le_self (n - threshold place bias) (36 - threshold place bias)
  omega

/-- Divides by thirty-five until at most 455 is left; each division counts thirty-six. -/
def shrink (n count : Nat) : Nat × Nat :=
  if 455 < n then shrink (n / 35) (count + 36) else (n, count)
termination_by n

/-- The **bias** after a number: the larger the number, the larger the bias. -/
def adapt (n written : Nat) (first : Bool) : Nat :=
  let n := if first then n / 700 else n / 2
  let (rest, count) := shrink (n + n / written) 0
  count + 36 * rest / (rest + 38)

/-- What has been written so far, the distance from the last place, the bias, and how many
characters are in place. -/
structure Progress where
  out : List Char
  distance : Nat
  bias : Nat
  written : Nat

/-- Goes past one character of the label while those equal to `c` are put in place. -/
def pass (basic : Nat) (c : Char) (p : Progress) (d : Char) : Progress :=
  if d < c then { p with distance := p.distance + 1 }
  else if d = c then
    { out := p.out ++ number p.bias 36 p.distance
      distance := 0
      bias := adapt p.distance (p.written + 1) (p.written = basic)
      written := p.written + 1 }
  else p

/-- Puts the remaining characters in place, which come in ascending order. -/
def place (label : List Char) (basic : Nat) : (next : Nat) → List Char → Progress → List Char
  | _, [], p => p.out
  | next, c :: rest, p =>
    let p := { p with distance := p.distance + (c.toNat - next) * (p.written + 1) }
    let p := label.foldl (pass basic c) p
    place label basic (c.toNat + 1) rest { p with distance := p.distance + 1 }

/-- The **written form** of a label. -/
def encode (label : List Char) : List Char :=
  let basic := label.filter fun c => c.toNat < 0x80
  let others := ((label.filter fun c => 0x80 ≤ c.toNat).mergeSort fun c d => c ≤ d).eraseDups
  let written := if basic.isEmpty then [] else basic ++ ['-']
  written ++ place label basic.length 0x80 others ⟨[], 0, 72, basic.length⟩

end Dispatch.Punycode
