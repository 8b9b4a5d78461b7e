import Missive.Value.Tag

/-!
# Built-in replies

A reply is what a built-in handler does with a message.  `Tag.replies?` lists the verbs that the
values of a type understand from the start, each with its reply.
-/

namespace Missive

/-- Operators on two integers. -/
inductive IntegerOp
  | add
  | sub
  | mul
  deriving DecidableEq, Repr

/-- Operators on two floating-point numbers. -/
inductive FloatOp
  | add
  | sub
  | mul
  | div
  deriving DecidableEq, Repr

/-- The types whose values are in order. -/
inductive Ordered
  | integer
  | float
  | string
  deriving DecidableEq, Repr

/-- The type that an ordered type is. -/
def Ordered.tag : Ordered → Tag
  | integer => .integer
  | float => .float
  | string => .string

/-- The comparisons. -/
inductive Relation
  | less
  | lessEqual
  | greater
  | greaterEqual
  | equal
  | notEqual
  deriving DecidableEq, Repr

namespace Relation

/-- All comparisons. -/
def all : List Relation :=
  [less, lessEqual, greater, greaterEqual, equal, notEqual]

/-- The verb of a comparison. -/
def verb : Relation → String
  | less => "<"
  | lessEqual => "<="
  | greater => ">"
  | greaterEqual => ">="
  | equal => "="
  | notEqual => "!="

end Relation

/-- What a built-in handler does. -/
inductive Reply
  /-- Answers with the subject. -/
  | itself
  /-- Answers with what a name is bound to. -/
  | lookUp
  /-- Answers with the body of a deferred value, as it is. -/
  | force
  /-- Evaluates the items of a block and answers with the last. -/
  | runItems
  /-- Evaluates the items of an array. -/
  | evalItems
  /-- Evaluates the entries of a map. -/
  | evalEntries
  /-- Evaluates both sides of a pair. -/
  | evalSides
  /-- Evaluates the operand of a message. -/
  | evalOperand
  /-- Evaluates the subject and the message of a send, and sends the one to the other. -/
  | dispatch
  /-- Evaluates the left or the right side of its operand, as the subject is true or false. -/
  | choose
  /-- Evaluates the operand if the subject is true. -/
  | conjunction
  /-- Evaluates the operand if the subject is false. -/
  | alternative
  /-- Computes with two integers. -/
  | integerOp (op : IntegerOp)
  /-- Computes with two floating-point numbers. -/
  | floatOp (op : FloatOp)
  /-- Joins two strings. -/
  | concat
  /-- Compares two values of one type. -/
  | compare (type : Ordered) (relation : Relation)
  /-- Compares nil with anything. -/
  | compareNil (relation : Relation)
  /-- Answers with the value that a map has for a key. -/
  | entry
  deriving DecidableEq, Repr

/-- The verb that asks a value to evaluate itself. -/
def evalVerb : String := "eval"

namespace Tag

/-- What the values of a type do to evaluate themselves.  Handlers cannot be evaluated. -/
def evalReply? : Tag → Option Reply
  | nil | integer | float | string => some .itself
  | name => some .lookUp
  | later => some .force
  | block => some .runItems
  | array => some .evalItems
  | map => some .evalEntries
  | pair => some .evalSides
  | message => some .evalOperand
  | send => some .dispatch
  | handler => none

/-- The comparisons of an ordered type, under their verbs. -/
def comparisons (type : Ordered) : List (String × Reply) :=
  Relation.all.map fun relation => (relation.verb, .compare type relation)

/-- The operators of a type, under their verbs. -/
def operators : Tag → List (String × Reply)
  | nil => Relation.all.map fun relation => (relation.verb, .compareNil relation)
  | integer =>
    [("+", .integerOp .add), ("-", .integerOp .sub), ("*", .integerOp .mul)]
      ++ comparisons .integer
  | float =>
    [("+", .floatOp .add), ("-", .floatOp .sub), ("*", .floatOp .mul), ("/", .floatOp .div)]
      ++ comparisons .float
  | string => ("+", .concat) :: comparisons .string
  | map => [(".", .entry)]
  | _ => []

/-- The built-in replies of a type, under their verbs.  Every type but that of handlers has the
verbs of evaluation and of control. -/
def replies? (tag : Tag) : Option (List (String × Reply)) :=
  tag.evalReply?.map fun evalReply =>
    [(evalVerb, evalReply), ("?", .choose), ("and", .conjunction), ("or", .alternative)]
      ++ tag.operators

end Tag

end Missive
