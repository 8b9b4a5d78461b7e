import Missive.Decimal.Power

/-!
# Floating-point numbers taken apart

A floating-point number is a sign and a magnitude, and a finite magnitude is a whole number times a
power of two.  Everything that this library says about the text of a floating-point number is said
about these parts, in exact arithmetic.
-/

namespace Missive

/-- The absolute value of a floating-point number. -/
inductive Magnitude
  | nan
  | infinite
  /-- The number `mantissa * 2 ^ exponent`. -/
  | finite (mantissa : Nat) (exponent : Int)
  deriving DecidableEq, Repr

/-- The sign and the absolute value of a floating-point number. -/
structure Binary where
  negative : Bool
  magnitude : Magnitude
  deriving DecidableEq, Repr

namespace Binary

/-- The power of two of the last bit of the smallest numbers. -/
def leastExponent : Int := -1074

/-- Mantissas of all but the smallest numbers lie between this and its double. -/
def hiddenBit : Nat := powerOf 2 52

/-- The bits of positive infinity; the bits of the finite positive numbers lie below. -/
def infinityBits : Nat := 2047 * hiddenBit

/-- The parts that a bit pattern stands for: one bit of sign, eleven of exponent and fifty-two of
fraction. -/
def ofBits (bits : Nat) : Binary where
  negative := powerOf 2 63 ≤ bits
  magnitude :=
    let biased : Nat := bits / hiddenBit % powerOf 2 11
    let fraction := bits % hiddenBit
    if biased = 2047 then
      if fraction = 0 then .infinite else .nan
    else if biased = 0 then .finite fraction leastExponent
    else .finite (fraction + hiddenBit) ((biased : Int) - 1 + leastExponent)

/-- The parts of a floating-point number. -/
def ofFloat (x : Float) : Binary :=
  ofBits x.toBits.toNat

/-- The number `mantissa * 2 ^ exponent`, if it is a whole one. -/
def whole? (mantissa : Nat) (exponent : Int) : Option Nat :=
  if 0 ≤ exponent then some (mantissa * powerOf 2 exponent)
  else if mantissa % powerOf 2 (-exponent) = 0 then some (mantissa / powerOf 2 (-exponent))
  else none

/-- The text of a floating-point number, given the text of its finite magnitude: a minus sign
before negative numbers, negative zero included. -/
def text (x : Binary) (finite : Nat → Int → String) : String :=
  match x.magnitude with
  | .nan => "NaN"
  | .infinite => if x.negative then "-inf" else "inf"
  | .finite mantissa exponent =>
    if x.negative then "-" ++ finite mantissa exponent else finite mantissa exponent

end Binary

end Missive
