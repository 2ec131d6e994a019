/-!
# `Binary64` — floating-point numbers as integers

A finite number of the 64-bit format is a significand below 2⁵³ times a power of two. Keeping both as
integers makes every rounding a statement about natural numbers: a quotient goes to the nearest
number of the format, and a quotient half-way between two goes to the one with an even significand.

## Contents

* `Binary64` — the numbers of the format.
* `Binary64.ofQuotient` — the nearest number to a quotient.
* `Binary64.ofDecimal` — the nearest number to a decimal.
* `Binary64.scaleTen` — one multiplication or division by a power of ten, rounded twice.
-/

namespace DeviceBroker

/-- A number of the 64-bit floating-point format. -/
inductive Binary64 where
  /-- The number `± significand · 2 ^ exponent`. -/
  | finite (negative : Bool) (significand : Nat) (exponent : Int)
  /-- A number too large for the format. -/
  | infinite (negative : Bool)
  /-- No number. -/
  | nan
  deriving Repr, DecidableEq

namespace Binary64

/-- Significands are smaller than this. -/
def significandBound : Nat := Nat.pow 2 53

/-- The smallest exponent. -/
def minExponent : Int := -1074

/-- The largest exponent. -/
def maxExponent : Int := 971

/-- `numerator / denominator` divided by `2 ^ exponent`, again as a quotient. -/
def unscale (numerator denominator : Nat) (exponent : Int) : Nat × Nat :=
  (numerator * Nat.pow 2 (-exponent).toNat, denominator * Nat.pow 2 exponent.toNat)

/-- A quotient to the nearest whole number, half-way to the even one. -/
def roundHalfEven (numerator denominator : Nat) : Nat :=
  let whole := numerator / denominator
  let rest := numerator % denominator
  if 2 * rest < denominator then whole
  else if denominator < 2 * rest then whole + 1
  else whole + whole % 2

/-- The exponent with which a positive quotient has a significand of 53 binary digits, or the smallest
    exponent of the format if that is larger. -/
def exponentFor (numerator denominator : Nat) : Int :=
  let guess : Int := (numerator.log2 : Int) - denominator.log2 - 52
  let (n, d) := unscale numerator denominator guess
  max minExponent (if n / d < Nat.pow 2 52 then guess - 1 else guess)

/-- **The nearest number** to a quotient. -/
def ofQuotient (negative : Bool) (numerator denominator : Nat) : Binary64 :=
  if numerator = 0 then .finite negative 0 minExponent
  else
    let exponent := exponentFor numerator denominator
    let (n, d) := unscale numerator denominator exponent
    let rounded := roundHalfEven n d
    let (significand, exponent) :=
      if rounded = significandBound then (rounded / 2, exponent + 1) else (rounded, exponent)
    if maxExponent < exponent then .infinite negative
    else .finite negative significand exponent

/-- The nearest number to `digits · 10 ^ exponent`. Exponents far outside the format's range need no
    large powers. -/
def ofDecimal (negative : Bool) (digits : Nat) (exponent : Int) : Binary64 :=
  let size : Int := (Nat.toDigits 10 digits).length + exponent
  if digits = 0 ∨ size < -400 then .finite negative 0 minExponent
  else if 400 < size then .infinite negative
  else ofQuotient negative (digits * Nat.pow 10 exponent.toNat) (Nat.pow 10 (-exponent).toNat)

/-- Whether the number is finite. -/
def isFinite : Binary64 → Bool
  | .finite .. => true
  | _ => false

/-- Whether the number is zero. -/
def isZero : Binary64 → Bool
  | .finite _ significand _ => significand == 0
  | _ => false

/-- Multiplies by a positive quotient, rounding the product. -/
def scale (value : Binary64) (numerator denominator : Nat) : Binary64 :=
  match value with
  | .finite negative significand exponent =>
    ofQuotient negative (significand * Nat.pow 2 exponent.toNat * numerator)
      (Nat.pow 2 (-exponent).toNat * denominator)
  | other => other

/-- The power of ten as a number of the format, as a quotient. -/
def powerOfTen (power : Nat) : Nat × Nat :=
  match ofDecimal false 1 power with
  | .finite _ significand exponent =>
    (significand * Nat.pow 2 exponent.toNat, Nat.pow 2 (-exponent).toNat)
  | _ => (1, 1)

/-- Multiplies by `10 ^ power`, the power itself rounded to the format. -/
def scaleTen (value : Binary64) (power : Int) : Binary64 :=
  let (n, d) := powerOfTen power.natAbs
  if 0 ≤ power then value.scale n d else value.scale d n

end Binary64

end DeviceBroker
