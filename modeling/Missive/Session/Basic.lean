import Missive.Program

/-!
# Sessions

A session works on frames and values by name: it keeps a store, the frames that have been given
names, and registers for values.  `Operand` describes a value that a command needs; describing a
value evaluates nothing.
-/

namespace Missive

/-- What a session knows. -/
structure Session where
  store : Store := {}
  /-- The frames by their names. -/
  frames : List (String × FrameId) := []
  /-- The values in registers. -/
  registers : List (String × Value) := []

/-- Why a command has no answer. -/
inductive SessionError
  /-- A program text or its evaluation is at fault. -/
  | program (error : Error)
  /-- No frame has the name. -/
  | unknownFrame (name : String)
  /-- No register has the name. -/
  | unknownRegister (name : String)
  /-- No built-in handler of the type has the verb. -/
  | unknownBuiltin (tag : Tag) (verb : String)
  deriving DecidableEq, Repr

/-- What a command does. -/
abbrev SessionM := ExceptT (Halt SessionError) (StateM Session)

namespace SessionM

/-- Fails. -/
def fail {α : Type} (error : SessionError) : SessionM α :=
  throw (.failed error)

/-- Works on the frames. -/
def withStore {α : Type} (action : StateM Store α) : SessionM α :=
  modifyGet fun session =>
    let (answer, store) := action.run session.store
    (answer, { session with store })

/-- Runs a computation on the frames. -/
def ofEval {α : Type} (computation : EvalM α) : SessionM α := do
  match ← withStore computation.run with
  | .ok answer => pure answer
  | .error halt => throw (halt.map fun error => .program (.eval error))

/-- Gives a frame a name.  An older frame of that name keeps its children and loses its name. -/
def nameFrame (name : String) (id : FrameId) : SessionM Unit :=
  modify fun session =>
    { session with frames := (name, id) :: session.frames.filter fun entry => entry.1 != name }

/-- The frame with a name. -/
def frame (name : String) : SessionM FrameId := do
  match (← get).frames.lookup name with
  | some id => pure id
  | none => fail (.unknownFrame name)

/-- Puts a value into a register, if one is named. -/
def save (register : Option String) (value : Value) : SessionM Unit :=
  match register with
  | some name =>
    modify fun session => { session with registers := (name, value) :: session.registers }
  | none => pure ()

/-- The names of a frame in ascending order. -/
def namesOf (id : FrameId) : SessionM (List String) := do
  let names := (← get).frames.filterMap fun (name, named) =>
    if named = id then some name else none
  return names.mergeSort fun a b => decide (a ≤ b)

/-- Makes the built-in handler that a type has for a verb. -/
def builtin (tag : Tag) (verb : String) : SessionM Handler := do
  match ← withStore (Store.addBuiltin? tag verb) with
  | some handler => pure handler
  | none => fail (.unknownBuiltin tag verb)

end SessionM

/-- The description of a value. -/
inductive Operand
  /-- The value that a program text is before it runs. -/
  | source (text : String)
  /-- What is in a register. -/
  | register (name : String)
  /-- A new built-in handler. -/
  | builtin (tag : Tag) (verb : String)
  | nil
  | integer (value : Int64)
  | float (value : Float)
  | string (value : String)
  | name (text : String)
  | later (body : Operand)
  | block (items : List Operand)
  | array (items : List Operand)
  /-- Entries in any order; of several with one key the last one counts. -/
  | map (entries : List (String × Operand))
  | pair (left right : Operand)
  | message (verb : String) (object : Operand)
  | send (subject : Operand) (verb : String) (object : Operand)

namespace Operand

mutual

/-- The value that is described.  Parts are looked at from left to right. -/
def value : Operand → SessionM Value
  | source text =>
    match Value.ofSource text with
    | .ok value => pure value
    | .error error => SessionM.fail (.program (.read error))
  | register key => do
    match (← get).registers.lookup key with
    | some value => pure value
    | none => SessionM.fail (.unknownRegister key)
  | builtin tag verb => .handler <$> SessionM.builtin tag verb
  | nil => pure .nil
  | integer value => pure (.integer value)
  | float value => pure (.float value)
  | string value => pure (.string value)
  | name text => pure (.name text)
  | later body => .later <$> value body
  | block items => .block <$> values items
  | array items => .array <$> values items
  | map entries => Value.ofEntries <$> entryValues entries
  | pair left right => .pair <$> value left <*> value right
  | message verb object => .message verb <$> value object
  | send subject verb object => do
    let subject ← value subject
    let object ← value object
    pure (.send subject verb object)
termination_by structural operand => operand

/-- The values that are described, one after the other. -/
def values : List Operand → SessionM (List Value)
  | [] => pure []
  | operand :: operands => do
    let first ← value operand
    let rest ← values operands
    pure (first :: rest)
termination_by structural operands => operands

/-- The entries whose values are described. -/
def entryValues : List (String × Operand) → SessionM (List (String × Value))
  | [] => pure []
  | (key, operand) :: entries => do
    let first ← value operand
    let rest ← entryValues entries
    pure ((key, first) :: rest)
termination_by structural entries => entries

end

end Operand

end Missive
