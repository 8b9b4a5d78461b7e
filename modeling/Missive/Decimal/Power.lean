/-!
# Powers with whole exponents

A fraction `a * b ^ e` is kept as two natural numbers.  The power belongs to the numerator if the
exponent is positive and to the denominator if it is negative, so either side takes the power it
can have and one otherwise.
-/

namespace Missive

/-- The power of a base, or one if the exponent is negative. -/
def powerOf (base : Nat) (exponent : Int) : Nat :=
  Nat.pow base exponent.toNat

end Missive
