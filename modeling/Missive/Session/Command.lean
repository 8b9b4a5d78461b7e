import Missive.Session.Basic

/-!
# Commands

A command makes, binds or searches frames, or evaluates a value in one.  It answers with what it
found or with an error; an error leaves the session as usable as before.
-/

namespace Missive

/-- Which ways out of a new frame are closed. -/
structure Limits where
  up : Bool := false
  left : Bool := false

/-- The frame with the given ways closed. -/
def Limits.apply (limits : Limits) (frame : Frame) : Frame :=
  { frame with upLimit := limits.up, leftLimit := limits.left }

/-- The directions in which a frame has children. -/
inductive Direction
  | down
  | right
  deriving DecidableEq, Repr

/-- The child of a frame in a direction. -/
def Direction.child : Direction → Store → FrameId → Frame
  | down, store, id => store.down id
  | right, _, id => Store.right id

/-- How far a search goes. -/
inductive Reach
  /-- The frame itself. -/
  | here
  /-- The frame and those that a lookup goes on with. -/
  | chain
  deriving DecidableEq, Repr

/-- What a session can be told to do.  Frames and registers are given by name. -/
inductive Command
  /-- Makes a frame without parents. -/
  | newFrame (name : String) (limits : Limits)
  /-- Makes a root frame with all built-in prototypes. -/
  | newRoot (name : String)
  /-- Makes a child of a frame, a child of that, and so on. -/
  | newChild (direction : Direction) (parent name : String) (times : Nat) (limits : Limits)
  /-- Makes the built-in prototype of a type, if there is one. -/
  | newPrototypeOf (tag : Tag) (name : String)
  /-- Makes a prototype of some built-in handlers.  There is no command for a handler with any other
  reply, so all handlers that are ever bound in the frames of a session are the language's own. -/
  | newPrototype (handlers : List (Tag × String)) (name : String)
  | bind (frame name : String) (value : Operand)
  | bindPrototype (frame : String) (tag : Tag) (prototype : String)
  | find (frame name : String) (reach : Reach) (register : Option String)
  | findPrototype (frame : String) (tag : Tag) (reach : Reach)
  | parents (frame : String)
  /-- Answers with a value as it is. -/
  | inspect (value : Operand) (register : Option String)
  | evaluate (frame : String) (value : Operand) (register : Option String)
  /-- Sends a message; neither the subject nor the operand is evaluated before. -/
  | send (frame : String) (subject : Operand) (verb : String) (object : Operand)
      (register : Option String)
  | findHandler (frame : String) (subject : Operand) (verb : String) (object : Operand)
      (register : Option String)
  /-- Compares two values. -/
  | equal (left right : Operand)
  /-- Has a built-in handler answer in a fresh root frame, whatever the type of the subject. -/
  | reply (tag : Tag) (verb : String) (subject object : Operand)

/-- What a command answers. -/
inductive Answer
  | done
  | value (value : Value)
  /-- Nothing was found. -/
  | missing
  /-- The names of the frame that was found. -/
  | frame (names : List String)
  /-- The names of the frames up and to the left, where there are any. -/
  | parents (up left : Option (List String))
  | truth (value : Bool)

namespace Command

open SessionM

/-- Makes a child of a frame, a child of that, and so on, and answers with the last. -/
def descend (direction : Direction) (limits : Limits) : Nat → FrameId → StateM Store FrameId
  | 0, id => pure id
  | times + 1, id => do
    let child ← Store.add (limits.apply (direction.child (← get) id))
    descend direction limits times child

/-- Answers with a value that has been found or computed, and keeps it if a register is named. -/
def answerWith (register : Option String) (value : Value) : SessionM Answer := do
  save register value
  return .value value

/-- Does what a command says. -/
def run (fuel : Nat) : Command → SessionM Answer
  | newFrame name limits => do
    nameFrame name (← withStore (Store.add (limits.apply {})))
    return .done
  | newRoot name => do
    nameFrame name (← withStore Store.addRoot)
    return .done
  | newChild direction parent name times limits => do
    let id ← frame parent
    nameFrame name (← withStore (descend direction limits times id))
    return .done
  | newPrototypeOf tag name => do
    match ← withStore (Store.addPrototypeOf? tag) with
    | some id => do
      nameFrame name id
      return .done
    | none => return .missing
  | newPrototype handlers name => do
    let handlers ← handlers.mapM fun (tag, verb) => builtin tag verb
    nameFrame name (← withStore (Store.addPrototype handlers))
    return .done
  | bind name key operand => do
    let id ← frame name
    let value ← operand.value
    withStore (Store.bind id key value)
    return .done
  | bindPrototype name tag prototype => do
    let id ← frame name
    let prototype ← frame prototype
    withStore (Store.bindPrototype id tag prototype)
    return .done
  | find name key reach register => do
    let id ← frame name
    let store := (← get).store
    let found := match reach with
      | .here => store.findHere id key
      | .chain => store.find id key
    match found with
    | some value => answerWith register value
    | none => return .missing
  | findPrototype name tag reach => do
    let id ← frame name
    let store := (← get).store
    let found := match reach with
      | .here => store.findPrototypeHere id tag
      | .chain => store.findPrototype id tag
    match found with
    | some prototype => return .frame (← namesOf prototype)
    | none => return .missing
  | parents name => do
    let id ← frame name
    let frame := (← get).store.frame id
    return .parents (← frame.up.mapM namesOf) (← frame.left.mapM namesOf)
  | inspect operand register => do
    answerWith register (← operand.value)
  | evaluate name operand register => do
    let id ← frame name
    let value ← operand.value
    answerWith register (← ofEval (Missive.evaluate fuel id value))
  | send name subject verb object register => do
    let id ← frame name
    let subject ← subject.value
    let object ← object.value
    answerWith register (← ofEval (Missive.send fuel id subject verb object))
  | findHandler name subject verb object register => do
    let id ← frame name
    let subject ← subject.value
    let _ ← object.value
    let store := (← get).store
    let handler ← ofEval (EvalM.ofExcept (store.findHandler id subject verb))
    answerWith register (.handler handler)
  | equal left right => do
    let left ← left.value
    let right ← right.value
    return .truth (left == right)
  | reply tag verb subject object => do
    let handler ← builtin tag verb
    let subject ← subject.value
    let object ← object.value
    let answer := EvalM.atRoot fun root =>
      handler.reply.run (Missive.send fuel) root subject object
    answerWith none (← ofEval answer)

end Command

namespace Session

/-- Runs a command: its answer, or why it has none, and the session afterwards. -/
def step (fuel : Nat) (session : Session) (command : Command) :
    Except (Halt SessionError) Answer × Session :=
  (command.run fuel).run.run session

/-- Runs commands one after the other; a command that fails does not stop those behind it. -/
def runAll (fuel : Nat) (session : Session) :
    List Command → List (Except (Halt SessionError) Answer)
  | [] => []
  | command :: commands =>
    let (answer, next) := session.step fuel command
    answer :: next.runAll fuel commands

end Session

end Missive
