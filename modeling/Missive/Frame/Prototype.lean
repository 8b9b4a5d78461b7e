import Missive.Frame.Basic

/-!
# Prototypes

A prototype is a frame without parents that binds verbs to handlers.  The root frame of a program
gives every type but that of handlers a prototype with its built-in replies.
-/

namespace Missive.Store

/-- Makes a handler. -/
def addHandler (verb : String) (reply : Reply) : StateM Store Handler :=
  modifyGet fun store => (⟨verb, reply, store.stamps⟩, { store with stamps := store.stamps + 1 })

/-- Makes the built-in handler that a type has for a verb. -/
def addBuiltin? (tag : Tag) (verb : String) : StateM Store (Option Handler) :=
  match tag.replies?.bind (·.lookup verb) with
  | some reply => some <$> addHandler verb reply
  | none => pure none

/-- Adds a frame that binds every handler under its own verb; of several with one verb the last one
counts. -/
def addPrototype (handlers : List Handler) : StateM Store FrameId :=
  add { bindings := (handlers.map fun handler => (handler.verb, Value.handler handler)).reverse }

/-- Adds a prototype with the built-in replies of a type. -/
def addPrototypeOf? (tag : Tag) : StateM Store (Option FrameId) :=
  match tag.replies? with
  | some replies => do
    let handlers ← replies.mapM fun reply => addHandler reply.1 reply.2
    some <$> addPrototype handlers
  | none => pure none

/-- Adds the prototype of a type and gives it to a frame. -/
def bindPrototypeOf (id : FrameId) (tag : Tag) : StateM Store Unit := do
  match ← addPrototypeOf? tag with
  | some prototype => bindPrototype id tag prototype
  | none => pure ()

/-- Adds the frames in which a program runs and answers with the innermost.  The outermost one has
the prototypes; programs are written to the right of it and called below that. -/
def addRoot : StateM Store FrameId := do
  let root ← add {}
  Tag.all.forM (bindPrototypeOf root)
  let written ← add (right root)
  add (down (← get) written)

end Missive.Store
