/-!
# Floating-point numbers of 64 bits

The numbers that a binary format with a 53-bit significand can hold, as exact data: a decimal
number is read by rounding an exact quotient, so no step depends on a processor.

## Main definitions

* `Binary64`: not-a-number, the infinities and the finite numbers.
* `Binary64.ofRatio`: the number nearest to a quotient, the even one of two that are equally near.
* `Binary64.ofDecimal`: the number nearest to a decimal number.
-/

namespace Dispatch

/-- A **floating-point number**. A finite one is `significand * 2 ^ exponent` with a sign; the
significand has at most 53 bits, and fewer only at the lowest exponent, -1074. -/
inductive Binary64 where
  | nan
  | infinite (negative : Bool)
  | finite (negative : Bool) (significand : Nat) (exponent : Int)
deriving DecidableEq, Repr, Inhabited

namespace Binary64

/-- The lowest exponent of a finite number. -/
def minExponent : Int := -1074

/-- The highest exponent of a finite number. -/
def maxExponent : Int := 971

/-- Zero with the given sign. -/
def zero (negative : Bool) : Binary64 := finite negative 0 minExponent

/-- The quotient rounded to the nearest natural number, and to the even one of two that are
equally near. -/
def roundedQuotient (num den : Nat) : Nat :=
  let low := num / den
  let twice := 2 * (num % den)
  if twice < den || (twice = den && low % 2 = 0) then low else low + 1

/-- The largest `e` with `2 ^ e ≤ num / den`, for positive arguments. -/
def logRatio (num den : Nat) : Int :=
  let guess : Int := (num.log2 : Int) - (den.log2 : Int)
  let reached :=
    if 0 ≤ guess then den * Nat.pow 2 guess.toNat ≤ num else den ≤ num * Nat.pow 2 (-guess).toNat
  if reached then guess else guess - 1

/-- The number nearest to `num / den`; beyond the largest finite number it is infinite. -/
def ofRatio (negative : Bool) (num den : Nat) : Binary64 :=
  if num = 0 then zero negative
  else
    let exponent := max (logRatio num den - 52) minExponent
    let significand :=
      if 0 ≤ exponent then roundedQuotient num (den * Nat.pow 2 exponent.toNat)
      else roundedQuotient (num * Nat.pow 2 (-exponent).toNat) den
    let (significand, exponent) :=
      if significand = 0x20000000000000 then (0x10000000000000, exponent + 1) else (significand, exponent)
    if maxExponent < exponent then infinite negative else finite negative significand exponent

/-- The number nearest to `digits * 10 ^ exponent`. Exponents that no digit can balance are
settled without computing a power. -/
def ofDecimal (negative : Bool) (digits : Nat) (exponent : Int) : Binary64 :=
  if digits = 0 then zero negative
  else
    let size := (digits.log2 : Int) * 3 / 10 + exponent
    if 400 < size then infinite negative
    else if size < -400 then zero negative
    else if 0 ≤ exponent then ofRatio negative (digits * Nat.pow 10 exponent.toNat) 1
    else ofRatio negative digits (Nat.pow 10 (-exponent).toNat)

/-- Numerator and denominator of the magnitude of a finite number. -/
def ratio (significand : Nat) (exponent : Int) : Nat × Nat :=
  if 0 ≤ exponent then (significand * Nat.pow 2 exponent.toNat, 1)
  else (significand, Nat.pow 2 (-exponent).toNat)

/-- The product of two finite positive numbers, rounded. -/
def scaleUp (negative : Bool) (x y : Nat × Nat) : Binary64 :=
  ofRatio negative (x.1 * y.1) (x.2 * y.2)

/-- The quotient of two finite positive numbers, rounded. -/
def scaleDown (negative : Bool) (x y : Nat × Nat) : Binary64 :=
  ofRatio negative (x.1 * y.2) (x.2 * y.1)

end Binary64

end Dispatch
