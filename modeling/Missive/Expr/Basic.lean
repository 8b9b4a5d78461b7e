/-!
# Expressions

The parse tree of a program.  A program is one expression; expressions send messages to each other,
and a message is a verb with one operand.

Two trees are compared with `==`: floating-point constants by their own equality, everything else
by structure.
-/

namespace Missive

/-- A parse tree. -/
inductive Expr
  /-- `()` -/
  | nil
  /-- A whole number; literals have no sign. -/
  | int (value : Int64)
  /-- A number with a point. -/
  | float (value : Float)
  /-- A string, without its quotes. -/
  | string (value : String)
  /-- A name to look up. -/
  | name (text : String)
  /-- `@body`: an expression that is not evaluated yet. -/
  | later (body : Expr)
  /-- `{item, item}`: expressions of which the last one counts. -/
  | block (items : List Expr)
  /-- `[item, item]` -/
  | array (items : List Expr)
  /-- `#{"key": value}`: the entries as they are written, repeated keys included. -/
  | map (entries : List (String × Expr))
  /-- `left:right` -/
  | pair (left right : Expr)
  /-- `\ verb object`: a message that is not sent. -/
  | message (verb : String) (object : Expr)
  /-- `subject verb object`: a message sent to a subject. -/
  | send (subject : Expr) (verb : String) (object : Expr)
  deriving Inhabited

namespace Expr

mutual

/-- Whether two trees are equal. -/
def beq : Expr → Expr → Bool
  | nil, nil => true
  | int a, int b => a == b
  | float a, float b => a == b
  | string a, string b => a == b
  | name a, name b => a == b
  | later a, later b => beq a b
  | block as, block bs => beqItems as bs
  | array as, array bs => beqItems as bs
  | map as, map bs => beqEntries as bs
  | pair a b, pair c d => beq a c && beq b d
  | message v a, message w b => v == w && beq a b
  | send s v a, send t w b => beq s t && v == w && beq a b
  | _, _ => false
termination_by structural e => e

/-- Whether two rows of items are equal. -/
def beqItems : List Expr → List Expr → Bool
  | [], [] => true
  | a :: as, b :: bs => beq a b && beqItems as bs
  | _, _ => false
termination_by structural es => es

/-- Whether two rows of map entries are equal, in order and keys. -/
def beqEntries : List (String × Expr) → List (String × Expr) → Bool
  | [], [] => true
  | (k, a) :: as, (l, b) :: bs => k == l && beq a b && beqEntries as bs
  | _, _ => false
termination_by structural es => es

end

instance : BEq Expr := ⟨beq⟩

end Expr

end Missive
