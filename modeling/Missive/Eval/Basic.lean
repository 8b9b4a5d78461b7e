import Missive.Frame.Basic
import Missive.Value.Render

/-!
# Evaluation as a computation

An evaluation reads and extends a store of frames.  It ends with a value or with an `EvalError`;
since some programs never end, it is given fuel and may also run out of it.
-/

namespace Missive

/-- Why a program has no value. -/
inductive EvalError
  | nameNotFound (name : String)
  /-- A value has no handler for a verb; the value is given by its text. -/
  | handlerNotFound (type : Tag) (verb : String) (subject : String)
  /-- A handler wants another type than those of its subject and its operand. -/
  | typeMismatch (expected left right : Tag)
  deriving DecidableEq, Repr

namespace EvalError

/-- The wording of an error. -/
def message : EvalError → String
  | nameNotFound name => "Name '" ++ name ++ "' not found"
  | handlerNotFound type verb subject =>
    "HandlerNotFound: no '" ++ verb ++ "' for " ++ type.describe ++ " " ++ subject
  | typeMismatch expected left right =>
    "Type mismatch: expected " ++ expected.describe ++ ", got " ++ left.describe ++ " and "
      ++ right.describe

/-- The error of a handler that wants another type. -/
def mismatch (expected : Tag) (subject object : Value) : EvalError :=
  typeMismatch expected subject.tag object.tag

end EvalError

/-- Why a computation stops without an answer. -/
inductive Halt (ε : Type)
  /-- The computation fails. -/
  | failed (error : ε)
  /-- The computation takes more steps than it was given. -/
  | outOfFuel
  deriving DecidableEq, Repr

/-- The error behind a halt, changed by a function. -/
def Halt.map {ε δ : Type} (f : ε → δ) : Halt ε → Halt δ
  | failed error => failed (f error)
  | outOfFuel => outOfFuel

/-- A computation on the store of frames. -/
abbrev EvalM := ExceptT (Halt EvalError) (StateM Store)

namespace EvalM

/-- Fails. -/
def fail {α : Type} (error : EvalError) : EvalM α :=
  throw (.failed error)

/-- An answer that may be an error. -/
def ofExcept {α : Type} : Except EvalError α → EvalM α
  | .ok a => pure a
  | .error error => fail error

/-- Runs a computation in a frame of its own, which is gone afterwards however the computation
ends. -/
def within {α : Type} (frame : Frame) (body : FrameId → EvalM α) : EvalM α :=
  ExceptT.mk do
    let id ← Store.add frame
    let answer ← (body id).run
    Store.release
    return answer

end EvalM

end Missive
