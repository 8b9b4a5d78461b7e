import Missive.Value.Reply

/-!
# Values

Programs compute with values, and programs are values themselves: names, deferred values, blocks,
messages and sends stand for code that has not run.

Two values are compared with `==`: floating-point numbers by their own equality, handlers by
identity, everything else by structure.
-/

namespace Missive

/-- What answers a message.  Its reply is one of the language's own: no handler does anything that
is not a `Reply`.  Handlers that are made at different times are different, even if they do the
same; the stamp tells them apart. -/
structure Handler where
  /-- The verb that the handler was made for. -/
  verb : String
  reply : Reply
  stamp : Nat
  deriving Repr

/-- Whether two handlers are one and the same. -/
def Handler.same (a b : Handler) : Bool :=
  a.stamp == b.stamp

/-- A value. -/
inductive Value
  | nil
  | integer (value : Int64)
  | float (value : Float)
  | string (value : String)
  /-- A name to look up. -/
  | name (text : String)
  /-- A value that is not evaluated yet. -/
  | later (body : Value)
  /-- Values to evaluate in turn. -/
  | block (items : List Value)
  | array (items : List Value)
  /-- Entries in ascending order of their keys; no key is repeated. -/
  | map (entries : List (String × Value))
  | pair (left right : Value)
  | message (verb : String) (object : Value)
  /-- A message that is still to be sent. -/
  | send (subject : Value) (verb : String) (object : Value)
  | handler (handler : Handler)
  deriving Inhabited

namespace Value

/-- The type of a value. -/
def tag : Value → Tag
  | nil => .nil
  | integer _ => .integer
  | float _ => .float
  | string _ => .string
  | name _ => .name
  | later _ => .later
  | block _ => .block
  | array _ => .array
  | map _ => .map
  | pair _ _ => .pair
  | message _ _ => .message
  | send _ _ _ => .send
  | handler _ => .handler

/-- Whether a value is nil, the only false value. -/
def isNil : Value → Bool
  | nil => true
  | _ => false

/-! ## Equality -/

mutual

/-- Whether two values are equal. -/
def beq : Value → Value → Bool
  | nil, nil => true
  | integer a, integer b => a == b
  | float a, float b => a == b
  | string a, string b => a == b
  | name a, name b => a == b
  | later a, later b => beq a b
  | block as, block bs => beqItems as bs
  | array as, array bs => beqItems as bs
  | map as, map bs => beqEntries as bs
  | pair a b, pair c d => beq a c && beq b d
  | message v a, message w b => v == w && beq a b
  | send s v a, send t w b => beq s t && v == w && beq a b
  | handler a, handler b => a.same b
  | _, _ => false
termination_by structural v => v

/-- Whether two rows of items are equal. -/
def beqItems : List Value → List Value → Bool
  | [], [] => true
  | a :: as, b :: bs => beq a b && beqItems as bs
  | _, _ => false
termination_by structural vs => vs

/-- Whether two rows of map entries are equal. -/
def beqEntries : List (String × Value) → List (String × Value) → Bool
  | [], [] => true
  | (k, a) :: as, (l, b) :: bs => k == l && beq a b && beqEntries as bs
  | _, _ => false
termination_by structural vs => vs

end

instance : BEq Value := ⟨beq⟩

/-! ## Maps -/

/-- Adds an entry to entries in ascending order, unless the key is there already. -/
def addEntry (key : String) (value : Value) :
    List (String × Value) → List (String × Value)
  | [] => [(key, value)]
  | (k, v) :: entries =>
    if key < k then (key, value) :: (k, v) :: entries
    else if key = k then (k, v) :: entries
    else (k, v) :: addEntry key value entries

/-- Entries in ascending order of their keys; of several with one key the last one counts. -/
def sortEntries (entries : List (String × Value)) : List (String × Value) :=
  entries.foldr (fun entry sorted => addEntry entry.1 entry.2 sorted) []

/-- The map with the given entries. -/
def ofEntries (entries : List (String × Value)) : Value :=
  map (sortEntries entries)

end Value

end Missive
