/-!
# Decimal numbers

A decimal number is a coefficient times a power of ten.  It is written *positionally*, with at
least one digit on either side of the point, or *scientifically*, with one digit before the point
and the power of ten behind an `e`.  Neither form loses or adds a significant digit.
-/

namespace Missive

/-- The number `coefficient * 10 ^ exponent`. -/
structure Decimal where
  coefficient : Nat
  exponent : Int
  deriving DecidableEq, Repr

namespace Decimal

/-- The digits of the coefficient, the most significant one first. -/
def digits (d : Decimal) : List Char :=
  Nat.toDigits 10 d.coefficient

/-- The power of ten of the first digit. -/
def leadingExponent (d : Decimal) : Int :=
  d.exponent + d.digits.length - 1

/-- The same number with a coefficient that does not end in a zero digit. -/
def trim (coefficient : Nat) (exponent : Int) : Decimal :=
  if coefficient ≠ 0 ∧ coefficient % 10 = 0 then trim (coefficient / 10) (exponent + 1)
  else ⟨coefficient, exponent⟩
termination_by coefficient
decreasing_by omega

/-! ## Writing -/

/-- The digits of the number around a point, at least one on either side: `1200.0`, `0.015`. -/
def positional (d : Decimal) : String :=
  if 0 ≤ d.exponent then
    String.ofList (d.digits ++ List.replicate d.exponent.toNat '0') ++ ".0"
  else
    let places := (-d.exponent).toNat
    let padded := List.replicate (places + 1 - d.digits.length) '0' ++ d.digits
    let whole := padded.length - places
    String.ofList (padded.take whole) ++ "." ++ String.ofList (padded.drop whole)

/-- One digit, the other digits behind a point if there are any, and the power of ten: `1e16`,
`1.5e-7`. -/
def scientific (d : Decimal) : String :=
  let mantissa :=
    match d.digits with
    | first :: second :: rest => first :: '.' :: second :: rest
    | single => single
  String.ofList mantissa ++ "e" ++ toString d.leadingExponent

/-- Where positional writing ends: numbers whose first digit has a power of ten of at least `low`
and below `high` are written positionally, all others scientifically. -/
structure Layout where
  low : Int
  high : Int

/-- The number as the layout has it. -/
def write (layout : Layout) (d : Decimal) : String :=
  if layout.low ≤ d.leadingExponent ∧ d.leadingExponent < layout.high then d.positional
  else d.scientific

end Decimal

end Missive
