import Missive.Expr.Basic
import Missive.Value.Basic

/-!
# Programs as values

An expression becomes a value of the same shape.  Only maps change: their entries are brought into
ascending order, and of several entries with one key the last one is kept.
-/

namespace Missive.Value

mutual

/-- The value that a program is before it runs. -/
def ofExpr : Expr → Value
  | .nil => nil
  | .int value => integer value
  | .float value => float value
  | .string value => string value
  | .name text => name text
  | .later body => later (ofExpr body)
  | .block items => block (ofItems items)
  | .array items => array (ofItems items)
  | .map entries => ofEntries (ofExprEntries entries)
  | .pair left right => pair (ofExpr left) (ofExpr right)
  | .message verb object => message verb (ofExpr object)
  | .send subject verb object => send (ofExpr subject) verb (ofExpr object)
termination_by structural e => e

/-- The values of the items of a block or an array. -/
def ofItems : List Expr → List Value
  | [] => []
  | item :: items => ofExpr item :: ofItems items
termination_by structural es => es

/-- The values of the entries of a map, as they are written. -/
def ofExprEntries : List (String × Expr) → List (String × Value)
  | [] => []
  | (key, value) :: entries => (key, ofExpr value) :: ofExprEntries entries
termination_by structural es => es

end

end Missive.Value
