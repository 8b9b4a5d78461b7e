import Missive.Eval.Basic

/-!
# Operators

The replies that compute directly: arithmetic, comparison, joining strings and access to a map.
They check the types of both sides and evaluate nothing.

A comparison answers with a true value if it holds and with nil otherwise.  Values of one ordered
type are compared by their order; nil is comparable with everything, but equal to itself only and
in no order with anything.
-/

namespace Missive

/-- Integers are words of 64 bits; results are taken modulo 2^64. -/
def IntegerOp.apply : IntegerOp → Int64 → Int64 → Int64
  | add, a, b => a + b
  | sub, a, b => a - b
  | mul, a, b => a * b

/-- The operators on floating-point numbers, each rounded once. -/
def FloatOp.apply : FloatOp → Float → Float → Float
  | add, a, b => a + b
  | sub, a, b => a - b
  | mul, a, b => a * b
  | div, a, b => a / b

/-- Whether a relation holds between two values in the given order, or between two that are in no
order. -/
def Relation.holds : Relation → Option Ordering → Bool
  | less, order => order == some .lt
  | lessEqual, order => order == some .lt || order == some .eq
  | greater, order => order == some .gt
  | greaterEqual, order => order == some .gt || order == some .eq
  | equal, order => order == some .eq
  | notEqual, order => order != some .eq

namespace Operator

/-- The order of two floating-point numbers; one that is not a number is in no order. -/
def floatOrder (a b : Float) : Option Ordering :=
  if a < b then some .lt
  else if a == b then some .eq
  else if b < a then some .gt
  else none

/-- The order of two values of an ordered type. -/
def order : Value → Value → Option Ordering
  | .integer a, .integer b => some (compareOfLessAndEq a b)
  | .float a, .float b => floatOrder a b
  | .string a, .string b => some (compareOfLessAndEq a b)
  | _, _ => none

/-- Computes with two integers. -/
def integer (op : IntegerOp) : Value → Value → Except EvalError Value
  | .integer a, .integer b => .ok (.integer (op.apply a b))
  | subject, object => .error (.mismatch .integer subject object)

/-- Computes with two floating-point numbers. -/
def float (op : FloatOp) : Value → Value → Except EvalError Value
  | .float a, .float b => .ok (.float (op.apply a b))
  | subject, object => .error (.mismatch .float subject object)

/-- Joins two strings. -/
def concat : Value → Value → Except EvalError Value
  | .string a, .string b => .ok (.string (a ++ b))
  | subject, object => .error (.mismatch .string subject object)

/-- Compares a value of an ordered type with another one or with nil.  The subject stands for
true. -/
def compare (type : Ordered) (relation : Relation) (subject object : Value) :
    Except EvalError Value :=
  if subject.tag = type.tag ∧ (object.tag = type.tag ∨ object.tag = .nil) then
    .ok (if relation.holds (order subject object) then subject else .nil)
  else .error (.mismatch type.tag subject object)

/-- Compares nil with anything.  It is equal to nil, for which one stands as true, and unequal to
everything else, which stands for true itself. -/
def compareNil (relation : Relation) : Value → Value → Except EvalError Value
  | .nil, object =>
    match relation with
    | .equal => .ok (if object.isNil then .integer 1 else .nil)
    | .notEqual => .ok (if object.isNil then .nil else object)
    | _ => .ok .nil
  | subject, object => .error (.mismatch .nil subject object)

/-- The value that a map has for a key, or nil. -/
def entry : Value → Value → Except EvalError Value
  | .map entries, .string key => .ok ((entries.lookup key).getD .nil)
  | .map entries, object => .error (.mismatch .string (.map entries) object)
  | subject, object => .error (.mismatch .map subject object)

end Operator

end Missive
