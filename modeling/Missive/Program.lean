import Missive.Eval.Send
import Missive.Expr.Parser
import Missive.Value.OfExpr

/-!
# Programs

A program text is parsed, turned into a value and evaluated in a fresh root frame.
-/

namespace Missive

/-- What can be wrong with a program. -/
inductive Error
  /-- The text is no program. -/
  | read (error : ReadError)
  /-- The program has no value. -/
  | eval (error : EvalError)
  deriving DecidableEq, Repr

/-- The wording of an error. -/
def Error.message : Error → String
  | read error => error.message
  | eval error => "Runtime Error: " ++ error.message

/-- The value that a program text is before it runs. -/
def Value.ofSource (source : String) : Except ReadError Value :=
  Value.ofExpr <$> parse source

/-- The answer of a computation that is given a root frame of its own. -/
def EvalM.atRoot {α : Type} (body : FrameId → EvalM α) : EvalM α := do
  let root ← Store.addRoot
  body root

/-- The outcome of a computation that starts without any frames. -/
def EvalM.outcome {α : Type} (computation : EvalM α) : Except (Halt EvalError) α :=
  (computation.run.run {}).1

/-- The outcome of a value in a fresh root frame. -/
def evaluateAtRoot (fuel : Nat) (value : Value) : Except (Halt EvalError) Value :=
  (EvalM.atRoot fun root => evaluate fuel root value).outcome

/-- The outcome of a program text. -/
def run (fuel : Nat) (source : String) : Except (Halt Error) Value :=
  match Value.ofSource source with
  | .error error => .error (.failed (.read error))
  | .ok value => (evaluateAtRoot fuel value).mapError (Halt.map .eval)

end Missive
