import Missive.Eval.Operator
import Missive.Frame.Prototype

/-!
# Sending messages

To evaluate a value is to send it the message `eval`.  A message goes to the prototype that the
type of its subject has in the frame, and there to the handler under its verb.

* `Reply.run` is what the built-in replies do.  It is given the way to send further messages.
* `send` ties the knot: it finds the handler and runs its reply with itself, with less fuel.  Fuel
  bounds how deep sends are nested, not how many there are.

A send in a program evaluates its subject and then its message in the frame that is current, and
delivers the one to the other in a frame of its own, in which `it` is the subject and `that` the
operand.  The way up from that frame is closed, so `it` and `that` of an outer send cannot be seen
in an inner one.
-/

namespace Missive

/-- The way to send a message: the frame, the subject, the verb and the operand. -/
abbrev Sender := FrameId → Value → String → Value → EvalM Value

namespace Sender

/-- Evaluates a value by sending it `eval`. -/
def evaluate (send : Sender) (frame : FrameId) (value : Value) : EvalM Value :=
  send frame value evalVerb .nil

end Sender

/-- The handler under a verb in the prototype of a value's type. -/
def Store.findHandler (store : Store) (frame : FrameId) (subject : Value) (verb : String) :
    Except EvalError Handler :=
  match (store.findPrototype frame subject.tag).bind (store.findHere · verb) with
  | some (.handler handler) => .ok handler
  | _ => .error (.handlerNotFound subject.tag verb subject.render)

/-- The frame for the delivery of a message. -/
def Store.delivery (store : Store) (frame : FrameId) (subject object : Value) : Frame :=
  (({ store.down frame with upLimit := true } : Frame).bind "it" subject).bind "that" object

/-- What a built-in reply does with a subject and an operand in a frame. -/
def Reply.run (send : Sender) (frame : FrameId) (subject object : Value) : Reply → EvalM Value
  | itself => pure subject
  | lookUp =>
    match subject with
    | .name name => do
      match (← get).find frame name with
      | some value => pure value
      | none => EvalM.fail (.nameNotFound name)
    | _ => EvalM.fail (.mismatch .name subject object)
  | force =>
    match subject with
    | .later body => pure body
    | _ => EvalM.fail (.mismatch .later subject object)
  | runItems =>
    match subject with
    | .block items => items.foldlM (fun _ item => send.evaluate frame item) .nil
    | _ => EvalM.fail (.mismatch .block subject object)
  | evalItems =>
    match subject with
    | .array items => .array <$> items.mapM (send.evaluate frame)
    | _ => EvalM.fail (.mismatch .array subject object)
  | evalEntries =>
    match subject with
    | .map entries =>
      .map <$> entries.mapM fun entry => (entry.1, ·) <$> send.evaluate frame entry.2
    | _ => EvalM.fail (.mismatch .map subject object)
  | evalSides =>
    match subject with
    | .pair left right => do
      let left ← send.evaluate frame left
      let right ← send.evaluate frame right
      pure (.pair left right)
    | _ => EvalM.fail (.mismatch .pair subject object)
  | evalOperand =>
    match subject with
    | .message verb operand => .message verb <$> send.evaluate frame operand
    | _ => EvalM.fail (.mismatch .message subject object)
  | dispatch =>
    match subject with
    | .send subject verb object => do
      let subject ← send.evaluate frame subject
      match ← send.evaluate frame (.message verb object) with
      | .message verb object =>
        EvalM.within ((← get).delivery frame subject object) fun delivery =>
          send delivery subject verb object
      | other => EvalM.fail (.mismatch .message subject other)
    | _ => EvalM.fail (.mismatch .send subject object)
  | choose =>
    match object with
    | .pair left right => send.evaluate frame (if subject.isNil then right else left)
    | _ => EvalM.fail (.mismatch .pair subject object)
  | conjunction => if subject.isNil then pure .nil else send.evaluate frame object
  | alternative => if subject.isNil then send.evaluate frame object else pure subject
  | integerOp op => EvalM.ofExcept (Operator.integer op subject object)
  | floatOp op => EvalM.ofExcept (Operator.float op subject object)
  | concat => EvalM.ofExcept (Operator.concat subject object)
  | compare type relation => EvalM.ofExcept (Operator.compare type relation subject object)
  | compareNil relation => EvalM.ofExcept (Operator.compareNil relation subject object)
  | entry => EvalM.ofExcept (Operator.entry subject object)

/-- Sends a message to a subject. -/
def send : Nat → Sender
  | 0, _, _, _, _ => throw .outOfFuel
  | fuel + 1, frame, subject, verb, object => do
    let handler ← EvalM.ofExcept ((← get).findHandler frame subject verb)
    handler.reply.run (send fuel) frame subject object

/-- Evaluates a value in a frame. -/
def evaluate (fuel : Nat) (frame : FrameId) (value : Value) : EvalM Value :=
  (send fuel).evaluate frame value

end Missive
