import Missive.Decimal.Shortest
import Missive.Expr.Basic
import Missive.Text.Escaped

/-!
# The outline of an expression

The outline shows a parse tree as text with every pair and every send in parentheses, so that the
shape of the tree can be seen.

* `Expr.writeOutline` writes an outline behind a text that is there already, `Expr.outline` gives
  it alone.
* `Expr.writeOutline_eq`: writing behind a text does not depend on the text.
-/

namespace Missive.Expr

/-- Floating-point constants from 0.0001 up to below 10^16 are written positionally. -/
def floatLayout : Decimal.Layout := ⟨-4, 16⟩

/-- A floating-point constant, in the fewest digits that tell it apart. -/
def floatText (x : Float) : String :=
  (Binary.ofFloat x).text fun mantissa exponent =>
    (Decimal.shortest mantissa exponent).write floatLayout

mutual

/-- Writes a parse tree, fully parenthesised, behind a text. -/
def writeOutline : Expr → String → String
  | nil, out => out ++ "()"
  | int value, out => out ++ toString value
  | float value, out => out ++ floatText value
  | string value, out => out ++ Text.escaped value
  | name text, out => out ++ text
  | later body, out => writeOutline body (out ++ "@(") ++ ")"
  | block items, out => writeItems items (out ++ "\x7b") ++ "\x7d"
  | array items, out => writeItems items (out ++ "[") ++ "]"
  | map entries, out => writeEntries entries (out ++ "#\x7b") ++ "\x7d"
  | pair left right, out => writeOutline right (writeOutline left (out ++ "(") ++ ":") ++ ")"
  | message verb object, out => writeOutline object (out ++ "\\ " ++ verb ++ " ")
  | send subject verb object, out =>
    writeOutline object (writeOutline subject (out ++ "(") ++ " " ++ verb ++ " ") ++ ")"
termination_by structural e => e

/-- Writes the items of a block or an array behind a text, with commas between them. -/
def writeItems : List Expr → String → String
  | [], out => out
  | [item], out => writeOutline item out
  | item :: next :: items, out => writeItems (next :: items) (writeOutline item out ++ ", ")
termination_by structural es => es

/-- Writes the entries of a map behind a text, with commas between them. -/
def writeEntries : List (String × Expr) → String → String
  | [], out => out
  | [(key, value)], out => writeOutline value (out ++ Text.escaped key ++ ": ")
  | (key, value) :: next :: entries, out =>
    writeEntries (next :: entries) (writeOutline value (out ++ Text.escaped key ++ ": ") ++ ", ")
termination_by structural es => es

end

/-- The text of a parse tree, fully parenthesised. -/
def outline (e : Expr) : String :=
  writeOutline e ""

/-! ## What has been written stays -/

mutual

/-- Writing a tree behind two texts leaves the first one alone. -/
theorem writeOutline_append : ∀ (e : Expr) (front out : String),
    writeOutline e (front ++ out) = front ++ writeOutline e out
  | nil, _, _ | int _, _, _ | float _, _, _ | string _, _, _ | name _, _, _ => by
    simp only [writeOutline, String.append_assoc]
  | later body, front, out => by
    simp only [writeOutline, String.append_assoc, writeOutline_append body]
  | block items, front, out => by
    simp only [writeOutline, String.append_assoc, writeItems_append items]
  | array items, front, out => by
    simp only [writeOutline, String.append_assoc, writeItems_append items]
  | map entries, front, out => by
    simp only [writeOutline, String.append_assoc, writeEntries_append entries]
  | pair left right, front, out => by
    simp only [writeOutline, String.append_assoc, writeOutline_append left,
      writeOutline_append right]
  | message _ object, front, out => by
    simp only [writeOutline, String.append_assoc, writeOutline_append object]
  | send subject _ object, front, out => by
    simp only [writeOutline, String.append_assoc, writeOutline_append subject,
      writeOutline_append object]

/-- Writing items behind two texts leaves the first one alone. -/
theorem writeItems_append : ∀ (items : List Expr) (front out : String),
    writeItems items (front ++ out) = front ++ writeItems items out
  | [], _, _ => rfl
  | [item], front, out => writeOutline_append item front out
  | item :: next :: items, front, out => by
    simp only [writeItems, writeOutline_append item, String.append_assoc,
      writeItems_append (next :: items)]

/-- Writing entries behind two texts leaves the first one alone. -/
theorem writeEntries_append : ∀ (entries : List (String × Expr)) (front out : String),
    writeEntries entries (front ++ out) = front ++ writeEntries entries out
  | [], _, _ => rfl
  | [(_, value)], front, out => by
    simp only [writeEntries, String.append_assoc, writeOutline_append value]
  | (_, value) :: next :: entries, front, out => by
    simp only [writeEntries, String.append_assoc, writeOutline_append value,
      writeEntries_append (next :: entries)]

end

/-- A tree is written behind a text as it is written alone. -/
theorem writeOutline_eq (e : Expr) (out : String) : writeOutline e out = out ++ outline e := by
  simpa [outline] using writeOutline_append e out ""

end Missive.Expr
