import Missive.Value.Basic

/-!
# Frames

A frame binds names to values and types to prototypes, which are frames themselves.  It has up to
two parents: the frame *up* from it, where it was called, and the frame to the *left* of it, where
it was written.  A lookup that misses goes on with the frame up, or with the frame to the left if
the way up is closed or leads nowhere.  A limit closes the way in its direction.

Frames live in a `Store` and are known by their number.  A parent is always older than its child,
so the chain of frames that a lookup visits comes to an end.
-/

namespace Missive

/-- The number of a frame in its store. -/
abbrev FrameId := Nat

/-- A scope. -/
structure Frame where
  /-- The values of names, the latest binding first. -/
  bindings : List (String × Value) := []
  /-- The prototypes of types, the latest binding first. -/
  prototypes : List (Tag × FrameId) := []
  up : Option FrameId := none
  left : Option FrameId := none
  upLimit : Bool := false
  leftLimit : Bool := false

namespace Frame

/-- The frame with a name bound to a value. -/
def bind (frame : Frame) (name : String) (value : Value) : Frame :=
  { frame with bindings := (name, value) :: frame.bindings }

/-- The frame with a prototype for a type. -/
def bindPrototype (frame : Frame) (tag : Tag) (prototype : FrameId) : Frame :=
  { frame with prototypes := (tag, prototype) :: frame.prototypes }

/-- The frame on which a lookup that misses here goes on. -/
def parent? (frame : Frame) : Option FrameId :=
  match frame.up, frame.upLimit with
  | some up, false => some up
  | _, _ => if frame.leftLimit then none else frame.left

end Frame

/-- All frames. -/
structure Store where
  /-- The frames by their numbers. -/
  frames : Array Frame := #[]
  /-- How many handlers have been made. -/
  stamps : Nat := 0

namespace Store

/-- The frame with a number.  A number that has not been given out stands for an empty frame. -/
def frame (store : Store) (id : FrameId) : Frame :=
  store.frames.getD id {}

/-! ## Lookup -/

/-- The frames that a lookup visits, in order. -/
def chain (store : Store) (id : FrameId) : List FrameId :=
  id ::
    match (store.frame id).parent? with
    | some parent => if parent < id then store.chain parent else []
    | none => []
termination_by id

/-- The value that a frame itself has for a name. -/
def findHere (store : Store) (id : FrameId) (name : String) : Option Value :=
  (store.frame id).bindings.lookup name

/-- The value that a name has in a frame. -/
def find (store : Store) (id : FrameId) (name : String) : Option Value :=
  (store.chain id).findSome? fun visited => store.findHere visited name

/-- The prototype that a frame itself has for a type. -/
def findPrototypeHere (store : Store) (id : FrameId) (tag : Tag) : Option FrameId :=
  (store.frame id).prototypes.lookup tag

/-- The prototype that a type has in a frame. -/
def findPrototype (store : Store) (id : FrameId) (tag : Tag) : Option FrameId :=
  (store.chain id).findSome? fun visited => store.findPrototypeHere visited tag

/-! ## New frames -/

/-- A child for the time of a call: the given frame is up from it, and what is to the left of the
one is to the left of the other. -/
def down (store : Store) (id : FrameId) : Frame where
  up := some id
  left := (store.frame id).left

/-- A child for code that is written in a frame: the frame is to the left of it, and nothing is
up. -/
def right (id : FrameId) : Frame where
  left := some id

/-- Adds a frame. -/
def add (frame : Frame) : StateM Store FrameId :=
  modifyGet fun store => (store.frames.size, { store with frames := store.frames.push frame })

/-- Removes the frame that was added last. -/
def release : StateM Store Unit :=
  modify fun store => { store with frames := store.frames.pop }

/-! ## Bindings -/

/-- Binds a name to a value. -/
def bind (id : FrameId) (name : String) (value : Value) : StateM Store Unit :=
  modify fun store =>
    { store with frames := store.frames.modify id fun frame => frame.bind name value }

/-- Gives a type a prototype. -/
def bindPrototype (id : FrameId) (tag : Tag) (prototype : FrameId) : StateM Store Unit :=
  modify fun store =>
    { store with frames := store.frames.modify id fun frame => frame.bindPrototype tag prototype }

end Store

end Missive
