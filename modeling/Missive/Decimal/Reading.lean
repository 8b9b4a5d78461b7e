import Missive.Decimal.Nearest
import Missive.Text.Symbol

/-!
# Reading numbers

`Decimal.ofDigits` joins the digits on either side of a point; it reads the literals of programs.
`readFloat?` reads the wider notation of floating-point numbers as data: a sign, digits around a
point, a power of ten, and words for infinity and for what is not a number.
-/

namespace Missive

open Text (isDigit)

/-- The value of a digit. -/
def digitValue (c : Char) : Nat :=
  c.toNat - '0'.toNat

/-- The number that a row of decimal digits stands for. -/
def natOfDigits (digits : List Char) : Nat :=
  digits.foldl (fun n c => 10 * n + digitValue c) 0

namespace Decimal

/-- The number with the given digits before and after the point. -/
def ofDigits (whole fraction : List Char) : Decimal where
  coefficient := natOfDigits (whole ++ fraction)
  exponent := -fraction.length

end Decimal

/-! ## Floating-point numbers as data -/

/-- A row of digits with an optional sign, as the power of ten of a number is written. -/
def readPower? (text : List Char) : Option Int :=
  match text with
  | '-' :: digits => (unsigned? digits).map fun n => -(n : Int)
  | '+' :: digits => (unsigned? digits).map fun n => (n : Int)
  | digits => (unsigned? digits).map fun n => (n : Int)
where
  /-- A row of at least one digit. -/
  unsigned? (digits : List Char) : Option Nat :=
    if digits.isEmpty || !digits.all isDigit then none else some (natOfDigits digits)

/-- A number without sign: digits, perhaps a point among them, perhaps a power of ten. -/
def readDecimal? (text : List Char) : Option Decimal := do
  let whole := text.takeWhile isDigit
  let rest := text.dropWhile isDigit
  let (fraction, rest) :=
    match rest with
    | '.' :: tail => (tail.takeWhile isDigit, tail.dropWhile isDigit)
    | _ => ([], rest)
  if whole.isEmpty && fraction.isEmpty then none
  let power ← match rest with
    | [] => some 0
    | mark :: tail => if mark = 'e' ∨ mark = 'E' then readPower? tail else none
  let d := Decimal.ofDigits whole fraction
  return { d with exponent := d.exponent + power }

/-- The magnitude of a floating-point number: one of the words, in any case, or a decimal. -/
def readMagnitude? (text : List Char) : Option Float :=
  let word := String.ofList (text.map Char.toLower)
  if word = "inf" ∨ word = "infinity" then some (Float.ofBits Binary.infinityBits.toUInt64)
  else if word = "nan" then some (0.0 / 0.0)
  else (readDecimal? text).map Decimal.toFloat

/-- A floating-point number with an optional sign. -/
def readFloat? (text : String) : Option Float :=
  match text.toList with
  | '-' :: magnitude => (readMagnitude? magnitude).map fun x => -x
  | '+' :: magnitude => readMagnitude? magnitude
  | magnitude => readMagnitude? magnitude

end Missive
