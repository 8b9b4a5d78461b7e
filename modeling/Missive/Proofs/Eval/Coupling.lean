import Missive.Proofs.Eval.Outcome
import Missive.Proofs.Value.Parts

/-!
# Two evaluations side by side

Two evaluations, each in a frame and a store of its own, are coupled by a relation that says how
their results belong together.  A `Coupling` is such a relation that is kept when computations are
put together.  Then it holds of two replies if it holds of what they evaluate and deliver, and of
two messages if they find the same handler.

* `Coupling.reply`: one reply.
* `Coupling.send_succ`: one message, with a unit of fuel more on either side.
-/

namespace Missive

open EvalM (Yields)

open Value (Exposed)

/-- A relation between computations, each in its own store, that holds of computations with one
result and is kept when computations are put together.  What follows has to be related only after
a result that there is. -/
structure Coupling where
  Relates {α : Type} (store store' : Store) (x y : EvalM α) : Prop
  of_yields {α : Type} {store store' : Store} {x y : EvalM α}
    {result : Except (Halt EvalError) α} :
    Yields store x result → Yields store' y result → Relates store store' x y
  congr {α : Type} {store store' : Store} {x x' y y' : EvalM α} :
    x.run.run store = x'.run.run store → y.run.run store' = y'.run.run store' →
      Relates store store' x' y' → Relates store store' x y
  bind {α β : Type} {store store' : Store} {x y : EvalM α} {f g : α → EvalM β} :
    Relates store store' x y → (∀ a, Yields store x (.ok a) → Relates store store' (f a) (g a)) →
      Relates store store' (x >>= f) (y >>= g)
  within {α : Type} {store store' : Store} {frame frame' : Frame} {f g : FrameId → EvalM α} :
    Relates (store.push frame) (store'.push frame') (f store.frames.size) (g store'.frames.size) →
      Relates store store' (EvalM.within frame f) (EvalM.within frame' g)

namespace Coupling

variable (c : Coupling) {α β : Type} {store store' : Store}

lemma ofExcept (answer : Except EvalError α) :
    c.Relates store store' (EvalM.ofExcept answer) (EvalM.ofExcept answer) :=
  c.of_yields (EvalM.yields_ofExcept answer) (EvalM.yields_ofExcept answer)

lemma pure (a : α) : c.Relates store store' (Pure.pure a) (Pure.pure a) :=
  c.ofExcept (.ok a)

variable {c}

lemma map {x y : EvalM α} (f : α → β) (hxy : c.Relates store store' x y) :
    c.Relates store store' (f <$> x) (f <$> y) := by
  simp only [map_eq_pure_bind]
  exact c.bind hxy fun a _ => c.pure (f a)

lemma foldlM {f g : β → α → EvalM β} {items : List α}
    (hfg : ∀ b, ∀ a ∈ items, c.Relates store store' (f b a) (g b a)) :
    ∀ b, c.Relates store store' (items.foldlM f b) (items.foldlM g b) := by
  induction items with
  | nil => exact c.pure
  | cons item items ih =>
      intro b
      simp only [List.foldlM_cons]
      exact c.bind (hfg b item List.mem_cons_self) fun b _ =>
        ih (fun b a ha => hfg b a (List.mem_cons_of_mem _ ha)) b

lemma mapM {f g : α → EvalM β} {items : List α}
    (hfg : ∀ a ∈ items, c.Relates store store' (f a) (g a)) :
    c.Relates store store' (items.mapM f) (items.mapM g) := by
  induction items with
  | nil => exact c.pure []
  | cons item items ih =>
      simp only [List.mapM_cons]
      refine c.bind (hfg item List.mem_cons_self) fun b _ => ?_
      refine c.bind (ih fun a ha => hfg a (List.mem_cons_of_mem _ ha)) fun bs _ => ?_
      exact c.pure (b :: bs)

end Coupling

/-! ## Replies -/

/-- The values that a reply to a message may evaluate where the message is sent. -/
inductive Evaluated (subject object : Value) : Value → Prop
  /-- What the subject consists of. -/
  | piece {value : Value} : value ∈ subject.exposedParts → Evaluated subject object value
  | object : Evaluated subject object object
  /-- A side of the operand. -/
  | side {value : Value} : value ∈ object.exposedParts → Evaluated subject object value
  /-- The message of a send. -/
  | message {first operand : Value} {verb : String} : subject = .send first verb operand →
      Evaluated subject object (.message verb operand)

/-- What is exposed in a value that a reply evaluates is exposed in the subject or in the operand,
unless it is the message of a send. -/
lemma Evaluated.exposed {subject object value part : Value} (h : Evaluated subject object value)
    (hpart : Exposed part value) (hmessage : ∀ verb operand, part ≠ .message verb operand) :
    Exposed part subject ∨ Exposed part object := by
  cases h with
  | piece hpiece => exact .inl (.inside hpiece hpart)
  | object => exact .inr hpart
  | side hside => exact .inr (.inside hside hpart)
  | @message first operand verb hsend =>
      -- the message is no part of the send, but what is exposed in it is exposed in the operand
      obtain ⟨piece, hpiece, hexposed⟩ := hpart.exists_piece (hmessage verb operand)
      obtain rfl : piece = operand := by simpa using hpiece
      have hpiece : piece ∈ subject.exposedParts := by simp [hsend]
      exact .inl (.inside hpiece hexposed)

namespace Coupling

section Replies

variable (c : Coupling) {store store' : Store} {id id' : FrameId} {sender sender' : Sender}

/-- Two ways to send messages that deliver related messages. -/
def Delivers (store store' : Store) (id id' : FrameId) (sender sender' : Sender) : Prop :=
  ∀ subject verb object, c.Relates (store.push (store.delivery id subject object))
    (store'.push (store'.delivery id' subject object))
    (sender store.frames.size subject verb object)
    (sender' store'.frames.size subject verb object)

/-- Names that are the same in both frames are looked up alike. -/
lemma lookUp {name : String} (hname : store.find id name = store'.find id' name)
    (object : Value) :
    c.Relates store store' (Reply.lookUp.run sender id (.name name) object)
      (Reply.lookUp.run sender' id' (.name name) object) :=
  c.of_yields (EvalM.yields_lookUp sender id name object)
    (hname ▸ EvalM.yields_lookUp sender' id' name object)

variable {c}

/-- A send evaluates its subject and its message, and delivers the one to the other. -/
lemma dispatch (hdeliver : c.Delivers store store' id id' sender sender')
    {subject : Value} {verb : String} {object : Value}
    (hsubject : c.Relates store store' (sender.evaluate id subject) (sender'.evaluate id' subject))
    (hmessage : c.Relates store store' (sender.evaluate id (.message verb object))
      (sender'.evaluate id' (.message verb object)))
    (argument : Value) :
    c.Relates store store' (Reply.dispatch.run sender id (.send subject verb object) argument)
      (Reply.dispatch.run sender' id' (.send subject verb object) argument) := by
  refine c.bind hsubject fun subject _ => c.bind hmessage fun message _ => ?_
  cases message with
  | message verb object =>
      refine c.congr ?_ ?_ (c.within (f := fun delivery => sender delivery subject verb object)
        (g := fun delivery => sender' delivery subject verb object)
        (hdeliver subject verb object))
      · rfl
      · rfl
  | _ => exact c.ofExcept (.error _)

/-- **One reply.**  A reply in two frames is related if the values that it evaluates and the
messages that it delivers are. -/
lemma reply {subject object : Value}
    (hnames : ∀ name, subject = .name name → store.find id name = store'.find id' name)
    (heval : ∀ value, Evaluated subject object value →
      c.Relates store store' (sender.evaluate id value) (sender'.evaluate id' value))
    (hdeliver : ∀ first verb operand, subject = .send first verb operand →
      c.Delivers store store' id id' sender sender') (reply : Reply) :
    c.Relates store store' (reply.run sender id subject object)
      (reply.run sender' id' subject object) := by
  have hpiece : ∀ piece ∈ subject.exposedParts,
      c.Relates store store' (sender.evaluate id piece) (sender'.evaluate id' piece) :=
    fun piece hpiece => heval piece (.piece hpiece)
  have hobject : c.Relates store store' (sender.evaluate id object) (sender'.evaluate id' object) :=
    heval object .object
  have hfails : ∀ error : EvalError, c.Relates store store' (EvalM.fail error : EvalM Value)
      (EvalM.fail error) :=
    fun error => c.ofExcept (.error error)
  cases reply with
  | itself => exact c.pure subject
  | lookUp =>
      cases subject with
      | name name => exact c.lookUp (hnames name rfl) object
      | _ => exact hfails _
  | force =>
      cases subject with
      | later body => exact c.pure body
      | _ => exact hfails _
  | runItems =>
      cases subject with
      | block items => exact foldlM (fun _ item hitem => hpiece item hitem) _
      | _ => exact hfails _
  | evalItems =>
      cases subject with
      | array items => exact map _ (mapM fun item hitem => hpiece item hitem)
      | _ => exact hfails _
  | evalEntries =>
      cases subject with
      | map entries =>
          refine map _ (mapM fun entry hentry => map _ ?_)
          exact hpiece entry.2 (List.mem_map_of_mem hentry)
      | _ => exact hfails _
  | evalSides =>
      cases subject with
      | pair left right =>
          refine c.bind (hpiece left (by simp)) fun left _ => ?_
          refine c.bind (hpiece right (by simp)) fun right _ => ?_
          exact c.pure (Value.pair left right)
      | _ => exact hfails _
  | evalOperand =>
      cases subject with
      | message verb operand =>
          exact map _ (hpiece operand (by simp))
      | _ => exact hfails _
  | dispatch =>
      cases subject with
      | send subject verb operand =>
          exact dispatch (hdeliver subject verb operand rfl) (hpiece subject (by simp))
            (heval _ (.message rfl)) object
      | _ => exact hfails _
  | choose =>
      cases object with
      | pair left right =>
          refine heval _ (.side ?_)
          cases subject.isNil <;> simp
      | _ => exact hfails _
  | conjunction =>
      cases subject with
      | nil => exact c.pure Value.nil
      | _ => exact hobject
  | alternative =>
      cases subject with
      | nil => exact hobject
      | _ => exact c.pure _
  | integerOp _ | floatOp _ | concat | compare _ _ | compareNil _ | entry => exact c.ofExcept _

end Replies

/-! ## Messages -/

/-- **One message.**  A message in two frames is related if it finds the same handler and, with a
unit of fuel less on each side, what the handler evaluates and delivers is related. -/
lemma send_succ {c : Coupling} {fuel fuel' : Nat} {store store' : Store} {id id' : FrameId}
    {subject object : Value} {verb : String}
    (hfound : store.findHandler id subject verb = store'.findHandler id' subject verb)
    (hnames : ∀ name, subject = .name name → store.find id name = store'.find id' name)
    (heval : ∀ value, Evaluated subject object value →
      c.Relates store store' ((send fuel).evaluate id value) ((send fuel').evaluate id' value))
    (hdeliver : ∀ first second operand, subject = .send first second operand →
      c.Delivers store store' id id' (send fuel) (send fuel')) :
    c.Relates store store' (send (fuel + 1) id subject verb object)
      (send (fuel' + 1) id' subject verb object) := by
  have hhandler : c.Relates store store'
      (EvalM.ofExcept (store.findHandler id subject verb) : EvalM Handler)
      (EvalM.ofExcept (store'.findHandler id' subject verb)) :=
    hfound ▸ c.ofExcept _
  refine c.congr ?_ ?_ (c.bind hhandler fun handler _ => reply hnames heval hdeliver handler.reply)
  · rfl
  · rfl

end Coupling

end Missive
