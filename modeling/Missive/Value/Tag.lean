/-!
# The types of values

Every value belongs to one of thirteen types.  A message to a value is answered by the prototype of
its type.
-/

namespace Missive

/-- The type of a value. -/
inductive Tag
  | nil
  | integer
  | float
  | string
  | name
  | later
  | block
  | array
  | map
  | pair
  | message
  | send
  | handler
  deriving DecidableEq, Repr

namespace Tag

/-- All types. -/
def all : List Tag :=
  [nil, integer, float, string, name, later, block, array, map, pair, message, send, handler]

/-- The name of a type. -/
def describe : Tag → String
  | nil => "Nil"
  | integer => "Integer"
  | float => "Float"
  | string => "String"
  | name => "Name"
  | later => "Later"
  | block => "Block"
  | array => "Array"
  | map => "Map"
  | pair => "Pair"
  | message => "Message"
  | send => "Send"
  | handler => "Handler"

end Tag

end Missive
