import Missive.Decimal.Basic
import Missive.Decimal.Binary

/-!
# The shortest decimal of a floating-point number

Many decimals round to the same floating-point number.  `Decimal.shortest` is the one with the
fewest digits, and of those the one nearest to the number itself; of two that are equally near it
takes the greater.

The decimals that round to `m * 2 ^ q` are those in an interval around it, its `Basin`, which
reaches half way to either neighbour.  The ends belong to it when the mantissa is even, since a tie
in rounding goes to the even side.  Decimals with at most `n` digits lie on a grid of powers of
ten; the search goes from the coarsest grid to finer ones and tries the two grid points around the
number on each.
-/

namespace Missive

/-- The numbers that round to one floating-point number: all of them from `low` to `high`, over a
common denominator.  The ends are included when `closed`. -/
structure Basin where
  low : Nat
  value : Nat
  high : Nat
  denominator : Nat
  closed : Bool
  deriving DecidableEq, Repr

namespace Basin

/-- The basin of `mantissa * 2 ^ exponent`, in quarters of the last bit.  The neighbour below a
power of two is only half as far away as the one above, unless the number is one of the
smallest. -/
def ofBinary (mantissa : Nat) (exponent : Int) : Basin :=
  let below :=
    if mantissa = Binary.hiddenBit ∧ Binary.leastExponent < exponent then 1 else 2
  let scale := powerOf 2 (exponent - 2)
  { low := (4 * mantissa - below) * scale
    value := 4 * mantissa * scale
    high := (4 * mantissa + 2) * scale
    denominator := powerOf 2 (2 - exponent)
    closed := mantissa % 2 = 0 }

/-- The basin in units of a power of ten. -/
def inUnits (b : Basin) (power : Int) : Basin :=
  let scale := powerOf 10 (-power)
  { low := b.low * scale
    value := b.value * scale
    high := b.high * scale
    denominator := b.denominator * powerOf 10 power
    closed := b.closed }

/-- Whether a whole number of units lies in the basin. -/
def contains (b : Basin) (units : Nat) : Bool :=
  if b.closed then b.low ≤ units * b.denominator && units * b.denominator ≤ b.high
  else b.low < units * b.denominator && units * b.denominator < b.high

/-- The whole number of units in the basin that is nearest to the value, the greater one of two
that are equally near. -/
def nearest? (b : Basin) : Option Nat :=
  let units := b.value / b.denominator
  match b.contains units, b.contains (units + 1) with
  | true, true =>
    some (if 2 * b.value < (2 * units + 1) * b.denominator then units else units + 1)
  | true, false => some units
  | false, true => some (units + 1)
  | false, false => none

/-- The power of ten of the first digit of a positive value. -/
def leadingExponent (b : Basin) : Int :=
  if b.denominator ≤ b.value then
    (Nat.toDigits 10 (b.value / b.denominator)).length - 1
  else
    -((Nat.toDigits 10 ((b.denominator - 1) / b.value)).length : Int)

end Basin

namespace Decimal

/-- So many digits tell any two floating-point numbers apart. -/
def enoughDigits : Nat := 17

/-- The shortest decimal that rounds to `mantissa * 2 ^ exponent`. -/
def shortest (mantissa : Nat) (exponent : Int) : Decimal :=
  if mantissa = 0 then ⟨0, 0⟩
  else
    let basin := Basin.ofBinary mantissa exponent
    let leading := basin.leadingExponent
    let found := (List.range enoughDigits).findSome? fun (n : Nat) =>
      (basin.inUnits (leading - n)).nearest?.map fun units => trim units (leading - n)
    found.getD ⟨0, 0⟩

end Decimal

end Missive
