import Missive.Decimal.Basic
import Missive.Decimal.Binary

/-!
# The floating-point number nearest to a decimal

A decimal is read exactly and rounded once: to the nearest floating-point number, and to the one
with the even mantissa if two are equally near.  Numbers beyond the greatest finite one become
infinite, and numbers too small to tell from zero become zero.
-/

namespace Missive

/-- A quotient rounded to the nearest whole number, a tie to the even one. -/
def roundToEven (numerator denominator : Nat) : Nat :=
  let quotient := numerator / denominator
  let twice := 2 * (numerator % denominator)
  if twice < denominator then quotient
  else if denominator < twice then quotient + 1
  else quotient + quotient % 2

namespace Binary

/-- The power of two of the last bit of a positive quotient when it is written with fifty-three
bits, or with fewer near zero. -/
def exponentOf (numerator denominator : Nat) : Int :=
  let guess : Int := (numerator.log2 : Int) - denominator.log2 - 52
  let mantissa := numerator * powerOf 2 (-guess) / (denominator * powerOf 2 guess)
  max leastExponent (if mantissa < hiddenBit then guess - 1 else guess)

/-- The bit pattern of the floating-point number nearest to a positive quotient.  A mantissa that
is rounded up to the next power of two carries into the exponent by itself. -/
def nearestBits (numerator denominator : Nat) : Nat :=
  let exponent := exponentOf numerator denominator
  let mantissa :=
    roundToEven (numerator * powerOf 2 (-exponent)) (denominator * powerOf 2 exponent)
  min infinityBits ((exponent - leastExponent).toNat * hiddenBit + mantissa)

end Binary

namespace Decimal

/-- The bit pattern of the floating-point number nearest to a decimal.  Decimals far outside the
range of finite numbers are settled by their size alone. -/
def nearestBits (d : Decimal) : Nat :=
  if d.coefficient = 0 then 0
  else if 400 < d.leadingExponent then Binary.infinityBits
  else if d.leadingExponent < -400 then 0
  else Binary.nearestBits (d.coefficient * powerOf 10 d.exponent) (powerOf 10 (-d.exponent))

/-- The floating-point number nearest to a decimal. -/
def toFloat (d : Decimal) : Float :=
  Float.ofBits d.nearestBits.toUInt64

end Decimal

end Missive
