import Missive.Decimal.Shortest
import Missive.Text.Quoted
import Missive.Value.Basic

/-!
# The text of a value

Values are shown as programs are written.  The text is plain: nothing is put into parentheses but
the body of a deferred value, so values of different shape may have the same text.

* `Value.write` writes a value behind a text that is there already, `Value.render` gives its text
  alone.
* `Value.write_eq`: writing behind a text does not depend on the text.  Together with the equations
  of `render` it says what the text of every value is.
-/

namespace Missive.Value

/-- A floating-point number: whole numbers with all their digits and a zero behind the point, other
numbers in the fewest digits that tell them apart.  Powers of ten are never written. -/
def floatText (x : Float) : String :=
  (Binary.ofFloat x).text fun mantissa exponent =>
    match Binary.whole? mantissa exponent with
    | some n => (Decimal.mk n 0).positional
    | none => (Decimal.shortest mantissa exponent).positional

mutual

/-- Writes a value behind a text. -/
def write : Value → String → String
  | nil, out => out ++ "()"
  | integer value, out => out ++ toString value
  | float value, out => out ++ floatText value
  | string value, out => out ++ Text.quote value
  | name text, out => out ++ text
  | later body, out => write body (out ++ "@(") ++ ")"
  | block items, out => writeItems items (out ++ "\x7b") ++ "\x7d"
  | array items, out => writeItems items (out ++ "[") ++ "]"
  | map entries, out => writeEntries entries (out ++ "#\x7b") ++ "\x7d"
  | pair left right, out => write right (write left out ++ ":")
  | message verb object, out => write object (out ++ "\\ " ++ verb ++ " ")
  | send subject verb object, out => write object (write subject out ++ " " ++ verb ++ " ")
  | handler _, out => out ++ "Handler"
termination_by structural v => v

/-- Writes the items of a block or an array behind a text, with commas between them. -/
def writeItems : List Value → String → String
  | [], out => out
  | [item], out => write item out
  | item :: next :: items, out => writeItems (next :: items) (write item out ++ ", ")
termination_by structural vs => vs

/-- Writes the entries of a map behind a text, with commas between them. -/
def writeEntries : List (String × Value) → String → String
  | [], out => out
  | [(key, value)], out => write value (out ++ Text.quote key ++ ": ")
  | (key, value) :: next :: entries, out =>
    writeEntries (next :: entries) (write value (out ++ Text.quote key ++ ": ") ++ ", ")
termination_by structural vs => vs

end

/-- The text of a value. -/
def render (v : Value) : String :=
  write v ""

/-! ## What has been written stays -/

mutual

/-- Writing a value behind two texts leaves the first one alone. -/
theorem write_append : ∀ (v : Value) (front out : String),
    write v (front ++ out) = front ++ write v out
  | nil, _, _ | integer _, _, _ | float _, _, _ | string _, _, _ | name _, _, _
  | handler _, _, _ => by simp only [write, String.append_assoc]
  | later body, front, out => by simp only [write, String.append_assoc, write_append body]
  | block items, front, out => by simp only [write, String.append_assoc, writeItems_append items]
  | array items, front, out => by simp only [write, String.append_assoc, writeItems_append items]
  | map entries, front, out => by
    simp only [write, String.append_assoc, writeEntries_append entries]
  | pair left right, front, out => by
    simp only [write, String.append_assoc, write_append left, write_append right]
  | message _ object, front, out => by simp only [write, String.append_assoc, write_append object]
  | send subject _ object, front, out => by
    simp only [write, String.append_assoc, write_append subject, write_append object]

/-- Writing items behind two texts leaves the first one alone. -/
theorem writeItems_append : ∀ (items : List Value) (front out : String),
    writeItems items (front ++ out) = front ++ writeItems items out
  | [], _, _ => rfl
  | [item], front, out => write_append item front out
  | item :: next :: items, front, out => by
    simp only [writeItems, write_append item, String.append_assoc,
      writeItems_append (next :: items)]

/-- Writing entries behind two texts leaves the first one alone. -/
theorem writeEntries_append : ∀ (entries : List (String × Value)) (front out : String),
    writeEntries entries (front ++ out) = front ++ writeEntries entries out
  | [], _, _ => rfl
  | [(_, value)], front, out => by
    simp only [writeEntries, String.append_assoc, write_append value]
  | (_, value) :: next :: entries, front, out => by
    simp only [writeEntries, String.append_assoc, write_append value,
      writeEntries_append (next :: entries)]

end

/-- A value is written behind a text as it is written alone. -/
theorem write_eq (v : Value) (out : String) : write v out = out ++ render v := by
  simpa [render] using write_append v out ""

end Missive.Value
