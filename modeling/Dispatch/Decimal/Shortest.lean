import Dispatch.Decimal.Binary64
import Dispatch.Decimal.Integer

/-!
# The shortest decimal text of a floating-point number

A floating-point number is written with the fewest digits that still read back as the same
number; of several decimal numbers with that many digits the nearest is taken.

## Main definitions

* `shortest`: the digits and the decimal exponent of a positive finite number.
* `Layout`: where positional notation gives way to an exponent.
* `Layout.text`: the text of a number in a layout.
-/

namespace Dispatch.Decimal

/-- `n / 10 ^ k` or `n * 10 ^ (-k)` as numerator and denominator. -/
def shifted (num den : Nat) (k : Int) : Nat × Nat :=
  if 0 ≤ k then (num, den * Nat.pow 10 k.toNat) else (num * Nat.pow 10 (-k).toNat, den)

/-- The decimal exponent of the leading digit of `num / den`, for positive arguments: the largest
`e` with `10 ^ e ≤ num / den`. The estimate from the binary logarithm is at most two too low or
too high, and the loop corrects it. -/
def leadingExponent (num den : Nat) : Int :=
  let reaches (e : Int) : Bool :=
    if 0 ≤ e then decide (den * Nat.pow 10 e.toNat ≤ num) else decide (den ≤ num * Nat.pow 10 (-e).toNat)
  let guess := Binary64.logRatio num den * 30103 / 100000
  if reaches (guess + 2) then guess + 2
  else if reaches (guess + 1) then guess + 1
  else if reaches guess then guess
  else guess - 1

/-- The reals that round to `significand * 2 ^ exponent`, as the ends of an interval over a
common denominator, with the number itself in the middle. Below a power of two the gap to the
neighbour is half as wide. -/
def roundingInterval (significand : Nat) (exponent : Int) : Nat × Nat × Nat × Nat :=
  let narrow := significand = 0x10000000000000 && exponent ≠ Binary64.minExponent
  let (low, mid, high) := if narrow then
      (4 * significand - 1, 4 * significand, 4 * significand + 2)
    else (4 * significand - 2, 4 * significand, 4 * significand + 2)
  if 0 ≤ exponent then
    let f := Nat.pow 2 exponent.toNat
    (low * f, mid * f, high * f, 4)
  else (low, mid, high, 4 * Nat.pow 2 (-exponent).toNat)

/-- Tries the grid of decimal numbers with `count` digits, then finer grids; seventeen digits
always suffice. -/
def searchGrid (significand : Nat) (low mid high den : Nat) (top : Int) :
    (count fuel : Nat) → Nat × Int
  | count, 0 =>
    let k := top - count + 1
    let (n, d) := shifted mid den k
    (Binary64.roundedQuotient n d, k)
  | count, fuel + 1 =>
    let k := top - count + 1
    let (n, d) := shifted mid den k
    let (lowN, lowD) := shifted low den k
    let (highN, highD) := shifted high den k
    let even := significand % 2 = 0
    let inside (x : Nat) : Bool :=
      (lowN < x * lowD || (even && lowN = x * lowD)) &&
        (x * highD < highN || (even && x * highD = highN))
    let below := n / d
    let above := below + 1
    let nearest := Binary64.roundedQuotient n d
    if inside nearest then (nearest, k)
    else if inside below then (below, k)
    else if inside above then (above, k)
    else searchGrid significand low mid high den top (count + 1) fuel

/-- The digits `d` and exponent `k` of the **shortest** decimal number `d * 10 ^ k` that reads
back as the positive number `significand * 2 ^ exponent`. -/
def shortest (significand : Nat) (exponent : Int) : Nat × Int :=
  let (low, mid, high, den) := roundingInterval significand exponent
  searchGrid significand low mid high den (leadingExponent mid den) 1 16

/-- A number without its trailing zeros, and how many there were. -/
def stripZeros (n : Nat) : Nat × Nat :=
  let ds := digits n
  let kept := (ds.reverse.dropWhile (· == '0')).reverse
  (value kept, ds.length - kept.length)

/-- A **layout** for floating-point numbers: numbers whose leading digit has a decimal exponent
from `positionalFrom` up to but not including `positionalBelow` are written positionally, with a
fraction of at least one digit; all others have one digit before the point and an exponent. -/
structure Layout where
  positionalFrom : Int
  positionalBelow : Int

namespace Layout

/-- The text of a positive number given by its shortest digits. -/
def magnitude (layout : Layout) (ds : List Char) (leading : Int) : List Char :=
  if layout.positionalFrom ≤ leading && leading < layout.positionalBelow then
    if leading < 0 then
      '0' :: '.' :: List.replicate ((-leading).toNat - 1) '0' ++ ds
    else
      let whole := leading.toNat + 1
      if ds.length ≤ whole then ds ++ List.replicate (whole - ds.length) '0' ++ ['.', '0']
      else ds.take whole ++ '.' :: ds.drop whole
  else
    let fraction := if ds.length ≤ 1 then [] else '.' :: ds.drop 1
    ds.take 1 ++ fraction ++ 'e' :: signed leading

/-- The text of a finite number. -/
def text (layout : Layout) (negative : Bool) (significand : Nat) (exponent : Int) : List Char :=
  let sign := if negative then ['-'] else []
  if significand = 0 then sign ++ ['0', '.', '0']
  else
    let (d, k) := shortest significand exponent
    let (d, zeros) := stripZeros d
    let ds := digits d
    sign ++ layout.magnitude ds (k + zeros + ds.length - 1)

end Layout

end Dispatch.Decimal
