import Missive.Proofs.Eval.Outcome
import Missive.Proofs.Eval.Tables

/-!
# Evaluation through frames is direct interpretation

A message is answered by way of frames, prototypes and handlers.  In a frame that sees a scope
(`Store.Sees`) all of that comes down to `interpret` and `deliver`: the frame decides which reply is
run (`send_equipped`, `Store.Sees.replies`), and every reply does what the interpreter does,
provided that the messages it sends do (the lemmas of the section on replies, which hold in any
`Simulation`).

Two inductions follow from that.  Induction on the fuel gives `refinement_send`: no amount of fuel
leads to another answer than the interpreter's.  Induction on the interpreter gives
`adequacy_interpret`: the answer of the interpreter is reached.  `evaluateAtRoot_settles` puts them
together in the root frame of a program.
-/

namespace Missive

/-- What a message does where every type has its built-in replies. -/
def builtinSend (sender : Sender) (id : FrameId) (subject : Value) (verb : String)
    (object : Value) : EvalM Value :=
  match subject.tag.reply? verb with
  | some reply => reply.run sender id subject object
  | none => EvalM.ofExcept (.error (.handlerNotFound subject.tag verb subject.render))

/-- A send finds the handler of the verb in the prototype of the subject, and runs its reply. -/
lemma send_equipped {store : Store} {id : FrameId} {subject : Value}
    (h : store.Equipped id subject.tag) (fuel : Nat) (verb : String) (object : Value) :
    (send (fuel + 1) id subject verb object).run.run store
      = (builtinSend (send fuel) id subject verb object).run.run store := by
  change (EvalM.ofExcept (store.findHandler id subject verb) >>= fun handler : Handler =>
    handler.reply.run (send fuel) id subject object).run.run store = _
  rw [builtinSend, ← h verb, Store.findHandler, Store.replyTo]
  cases (store.findPrototype id subject.tag).bind (store.findHere · verb) with
  | none => rfl
  | some value => cases value <;> rfl

lemma send_succ {store : Store} {id : FrameId} {scope : Scope} (h : store.Sees id scope)
    (fuel : Nat) (subject : Value) (verb : String) (object : Value) :
    (send (fuel + 1) id subject verb object).run.run store
      = (builtinSend (send fuel) id subject verb object).run.run store :=
  send_equipped (h.replies subject.tag) fuel verb object

/-- A value is evaluated by the reply that its type has for that. -/
lemma evaluate_equipped {store : Store} {id : FrameId} {value : Value} {reply : Reply}
    (h : store.Equipped id value.tag) (hreply : value.tag.evalReply? = some reply) (fuel : Nat) :
    (evaluate (fuel + 1) id value).run.run store
      = (reply.run (send fuel) id value .nil).run.run store := by
  refine (send_equipped h fuel evalVerb .nil).trans ?_
  rw [builtinSend, Tag.reply?_eval, hreply]

/-! ## Replies -/

section Replies

variable (sim : Simulation) {store : Store} {id : FrameId} {scope : Scope}
  (senders : Nat → Sender) (interp : Value → Option (Except EvalError Value))

/-- Evaluation with the given senders in a frame is interpretation. -/
def Evaluates (store : Store) (id : FrameId) : Prop :=
  ∀ value, sim.Relates store (fun fuel => (senders fuel).evaluate id value) (interp value)

lemma relates_lookUp (object : Value) (h : store.Sees id scope) (text : String) :
    sim.Relates store (fun fuel => Reply.lookUp.run (senders fuel) id (.name text) object)
      (match scope.find? text with
      | some bound => some (.ok bound)
      | none => some (.error (.nameNotFound text))) := by
  rw [← h.names text]
  cases hfind : store.find id text with
  | none =>
      refine sim.congr (fun fuel => ?_) (sim.ofExcept store (.error (.nameNotFound text)))
      change (match store.find id text with
        | some value => pure value
        | none => EvalM.fail (.nameNotFound text) : EvalM Value).run.run store = _
      rw [hfind]
      rfl
  | some bound =>
      refine sim.congr (fun fuel => ?_) (sim.ofExcept store (.ok bound))
      change (match store.find id text with
        | some value => pure value
        | none => EvalM.fail (.nameNotFound text) : EvalM Value).run.run store = _
      rw [hfind]
      rfl

variable {senders interp} (heval : Evaluates sim senders interp store id) (object : Value)

include heval

lemma relates_runItems (items : List Value) :
    sim.Relates store (fun fuel => Reply.runItems.run (senders fuel) id (.block items) object)
      (items.foldlM (m := AnswerM) (fun _ item => interp item) .nil) :=
  sim.foldlM (fun _ item => heval item) items .nil

lemma relates_evalItems (items : List Value) :
    sim.Relates store (fun fuel => Reply.evalItems.run (senders fuel) id (.array items) object)
      (bind (m := AnswerM) (items.mapM (m := AnswerM) interp) fun items =>
        pure (.array items)) :=
  sim.map (sim.mapM heval items) Value.array

lemma relates_evalEntries (entries : List (String × Value)) :
    sim.Relates store (fun fuel => Reply.evalEntries.run (senders fuel) id (.map entries) object)
      (bind (m := AnswerM) (entries.mapM (m := AnswerM) fun entry =>
        bind (m := AnswerM) (interp entry.2) fun value => pure (entry.1, value)) fun entries =>
        pure (.map entries)) := by
  refine sim.map (sim.mapM (fun entry => ?_) entries) Value.map
  exact sim.map (heval entry.2) (Prod.mk entry.1)

lemma relates_evalSides (left right : Value) :
    sim.Relates store (fun fuel => Reply.evalSides.run (senders fuel) id (.pair left right) object)
      (bind (m := AnswerM) (interp left) fun left =>
        bind (m := AnswerM) (interp right) fun right => pure (.pair left right)) :=
  sim.bind (heval left) fun left => sim.bind (heval right) fun right =>
    sim.pure (Value.pair left right)

lemma relates_evalOperand (verb : String) (operand : Value) :
    sim.Relates store
      (fun fuel => Reply.evalOperand.run (senders fuel) id (.message verb operand) object)
      (bind (m := AnswerM) (interp operand) fun operand => pure (.message verb operand)) :=
  sim.map (heval operand) (Value.message verb)

/-- The delivery of a message that has been evaluated.  What a message is evaluated to is a message;
the other branch is there for the types only. -/
def deliverMessage (deliv : Value → String → Value → Option (Except EvalError Value))
    (subject : Value) : Value → Option (Except EvalError Value)
  | .message verb operand => deliv subject verb operand
  | other => some (.error (.mismatch .message subject other))

/-- The subject and the message are evaluated where the send stands, and the one is delivered to the
other in a frame of its own. -/
lemma relates_dispatch {subject : Value} {verb : String} {operand : Value}
    {deliv : Value → String → Value → Option (Except EvalError Value)}
    (hmessage : sim.Relates store
      (fun fuel => (senders fuel).evaluate id (.message verb operand))
      (bind (m := AnswerM) (interp operand) fun operand => pure (.message verb operand)))
    (hdeliver : ∀ subject verb operand, sim.Relates (store.push (store.delivery id subject operand))
      (fun fuel => senders fuel store.frames.size subject verb operand)
      (deliv subject verb operand)) :
    sim.Relates store
      (fun fuel => Reply.dispatch.run (senders fuel) id (.send subject verb operand) object)
      (bind (m := AnswerM) (interp subject) fun subject =>
        bind (m := AnswerM) (interp operand) fun operand => deliv subject verb operand) := by
  refine sim.bind (heval subject) fun subject => ?_
  have hbind : (bind (m := AnswerM) (interp operand) fun operand => deliv subject verb operand)
      = bind (m := AnswerM)
          (bind (m := AnswerM) (interp operand) fun operand =>
            pure (Value.message verb operand))
          (deliverMessage deliv subject) := by
    rw [bind_assoc]
    rfl
  rw [hbind]
  refine sim.bind hmessage fun message => ?_
  cases message with
  | message verb operand =>
      refine sim.congr (fun fuel => ?_) (sim.within
        (f := fun fuel delivery => senders fuel delivery subject verb operand)
        (hdeliver subject verb operand))
      rfl
  | _ => exact sim.ofExcept store (.error _)

lemma relates_choose (subject : Value) :
    sim.Relates store (fun fuel => Reply.choose.run (senders fuel) id subject object)
      (match object with
      | .pair left right => interp (if subject.tag = .nil then right else left)
      | _ => some (.error (.typeMismatch .pair subject.tag object.tag))) := by
  cases object with
  | pair left right => cases subject <;> exact heval _
  | _ => exact sim.ofExcept store (.error _)

lemma relates_conjunction (subject : Value) :
    sim.Relates store (fun fuel => Reply.conjunction.run (senders fuel) id subject object)
      (if subject.tag = .nil then some (.ok .nil) else interp object) := by
  cases subject with
  | nil => exact sim.ofExcept store (.ok Value.nil)
  | _ => exact heval object

lemma relates_alternative (subject : Value) :
    sim.Relates store (fun fuel => Reply.alternative.run (senders fuel) id subject object)
      (if subject.tag = .nil then interp object else some (.ok subject)) := by
  cases subject with
  | nil => exact heval object
  | _ => exact sim.ofExcept store (.ok _)

/-- Every verb: evaluation is given, control evaluates again, and the rest are the operators. -/
lemma relates_deliver {subject : Value} {verb : String} {self : Option (Except EvalError Value)} :
    sim.Relates store (fun fuel => builtinSend (senders fuel) id subject "eval" object) self →
    sim.Relates store (fun fuel => builtinSend (senders fuel) id subject verb object)
      (if subject.tag = .handler then some (.error (.handlerNotFound .handler verb "Handler"))
      else if verb = "eval" then self
      else if verb = "?" then
        match object with
        | .pair left right => interp (if subject.tag = .nil then right else left)
        | _ => some (.error (.typeMismatch .pair subject.tag object.tag))
      else if verb = "and" then
        if subject.tag = .nil then some (.ok .nil) else interp object
      else if verb = "or" then
        if subject.tag = .nil then interp object else some (.ok subject)
      else
        match Direct.operator? subject verb object with
        | some answer => some answer
        | none => some (.error (.handlerNotFound subject.tag verb subject.render))) := by
  intro hself
  by_cases hhandler : subject.tag = .handler
  · cases subject with
    | handler _ => exact sim.ofExcept store (.error _)
    | _ => cases hhandler
  rw [if_neg hhandler]
  by_cases heq : verb = "eval"
  · rw [if_pos heq, heq]
    exact hself
  rw [if_neg heq]
  by_cases hchoose : verb = "?"
  · rw [if_pos hchoose, hchoose]
    simp only [builtinSend, Tag.reply?_choose, hhandler, if_false]
    exact relates_choose sim heval object subject
  rw [if_neg hchoose]
  by_cases hand : verb = "and"
  · rw [if_pos hand, hand]
    simp only [builtinSend, Tag.reply?_and, hhandler, if_false]
    exact relates_conjunction sim heval object subject
  rw [if_neg hand]
  by_cases hor : verb = "or"
  · rw [if_pos hor, hor]
    simp only [builtinSend, Tag.reply?_or, hhandler, if_false]
    exact relates_alternative sim heval object subject
  rw [if_neg hor]
  have htable : ∀ fuel, ((subject.tag.operators.lookup verb).map fun reply =>
      reply.run (senders fuel) id subject object)
        = (Direct.operator? subject verb object).map EvalM.ofExcept :=
    fun fuel => answered_operators (senders fuel) id subject verb object
  simp only [builtinSend, Tag.reply?_operator _ heq hchoose hand hor]
  cases hlookup : subject.tag.operators.lookup verb with
  | none =>
      cases hoperator : Direct.operator? subject verb object with
      | none => exact sim.ofExcept store (.error _)
      | some answer => simp [hlookup, hoperator] at htable
  | some reply =>
      cases hoperator : Direct.operator? subject verb object with
      | none => simp [hlookup, hoperator] at htable
      | some answer =>
          simp only [hlookup, hoperator, Option.map_some, Option.some.injEq] at htable
          simp only [htable]
          exact sim.ofExcept store answer

end Replies

/-- Every type of value: its reply does what the clause for it says. -/
lemma relates_evaluation (sim : Simulation) {store : Store} {id : FrameId} {scope : Scope}
    (h : store.Sees id scope) {senders : Nat → Sender} {again : Direct.Meaning}
    (heval : Evaluates sim senders (again scope) store id) (object : Value)
    (hmessage : ∀ verb operand, sim.Relates store
      (fun fuel => (senders fuel).evaluate id (.message verb operand))
      (Direct.evaluation again scope (.message verb operand)))
    (hdeliver : ∀ subject verb operand, sim.Relates (store.push (store.delivery id subject operand))
      (fun fuel => senders fuel store.frames.size subject verb operand)
      (Direct.delivery again subject verb operand)) (value : Value) :
    sim.Relates store (fun fuel => builtinSend (senders fuel) id value "eval" object)
      (Direct.evaluation again scope value) := by
  cases value with
  | nil => exact sim.pure _
  | integer _ => exact sim.pure _
  | float _ => exact sim.pure _
  | string _ => exact sim.pure _
  | name text => exact relates_lookUp sim senders object h text
  | later body => exact sim.pure body
  | block items => exact relates_runItems sim heval object items
  | array items => exact relates_evalItems sim heval object items
  | map entries => exact relates_evalEntries sim heval object entries
  | pair left right => exact relates_evalSides sim heval object left right
  | message verb operand => exact relates_evalOperand sim heval object verb operand
  | send subject verb operand =>
      exact relates_dispatch sim heval object (hmessage verb operand) hdeliver
  | handler _ => exact sim.ofExcept _ (.error _)

/-! ## No other answer -/

/-- The senders of one amount of fuel evaluate as the interpreter does, unless it runs out. -/
def Refined (fuel : Nat) : Prop :=
  (∀ {store id scope}, Store.Sees store id scope → ∀ value object,
    Simulation.refinement.Relates store (fun _ => send fuel id value "eval" object)
      (interpret scope value)) ∧
  (∀ {store id subject verb object}, Store.Sees store id (some (subject, object)) →
    Simulation.refinement.Relates store (fun _ => send fuel id subject verb object)
      (deliver subject verb object))

/-- One unit of fuel more: evaluation. -/
lemma Refined.interpret_succ {fuel : Nat} (ih : Refined fuel) {store : Store} {id : FrameId}
    {scope : Scope} (h : store.Sees id scope) (value object : Value) :
    Simulation.refinement.Relates store (fun _ => builtinSend (send fuel) id value "eval" object)
      (interpret scope value) := by
  have heval : Evaluates .refinement (fun _ => send fuel) (interpret scope) store id :=
    fun value => ih.1 h value .nil
  have hmessage : ∀ verb operand, Simulation.refinement.Relates store
      (fun _ => (send fuel).evaluate id (.message verb operand))
      (Direct.evaluation interpret scope (.message verb operand)) := by
    intro verb operand
    rw [← interpret_eq]
    exact ih.1 h (.message verb operand) .nil
  rw [interpret_eq]
  exact relates_evaluation _ h heval object hmessage
    (fun subject verb operand => ih.2 (h.delivery subject operand)) value

/-- **No other answer.**  With any amount of fuel a message in a frame that sees a scope leaves the
store as it is, and is answered as the interpreter answers it unless the fuel runs out. -/
lemma refinement_send (fuel : Nat) : Refined fuel := by
  induction fuel with
  | zero =>
      constructor
      · intro store id scope _ value object _
        exact ⟨.error .outOfFuel, rfl, trivial⟩
      · intro store id subject verb object _ _
        exact ⟨.error .outOfFuel, rfl, trivial⟩
  | succ fuel ih =>
      constructor
      · intro store id scope h value object
        exact Simulation.refinement.congr (fun _ => send_succ h fuel value "eval" object)
          (ih.interpret_succ h value object)
      · intro store id subject verb object h
        refine Simulation.refinement.congr (fun _ => send_succ h fuel subject verb object) ?_
        exact relates_deliver _ (fun value => ih.1 h value .nil) object
          (ih.interpret_succ h subject object)

/-! ## The answer is reached -/

/-- With enough fuel a value is evaluated to the result, in every frame that sees the scope. -/
def Reached (scope : Scope) (value : Value) (result : Except EvalError Value) : Prop :=
  ∀ {store id}, Store.Sees store id scope → ∀ object,
    Simulation.adequacy.Relates store (fun fuel => send fuel id value "eval" object) (some result)

/-- With enough fuel a message is answered with the result, in every frame for its delivery. -/
def Delivered (subject : Value) (verb : String) (object : Value)
    (result : Except EvalError Value) : Prop :=
  ∀ {store id}, Store.Sees store id (some (subject, object)) →
    Simulation.adequacy.Relates store (fun fuel => send fuel id subject verb object) (some result)

/-- A send comes to what its reply comes to with a unit of fuel less. -/
lemma adequacy_send {store : Store} {id : FrameId} {scope : Scope} (h : store.Sees id scope)
    {subject : Value} {verb : String} {object : Value} {answer : Option (Except EvalError Value)}
    (hreply : Simulation.adequacy.Relates store
      (fun fuel => builtinSend (send (fuel - 1)) id subject verb object) answer) :
    Simulation.adequacy.Relates store (fun fuel => send fuel id subject verb object) answer :=
  Simulation.adequacy_congr hreply fun fuel => send_succ h fuel subject verb object

/-- A send whose answer is reached has a reply that comes to it with a unit of fuel less. -/
lemma adequacy_builtinSend {store : Store} {id : FrameId} {scope : Scope}
    (h : store.Sees id scope) {subject : Value} {verb : String} {object : Value}
    {answer : Option (Except EvalError Value)}
    (hsend : Simulation.adequacy.Relates store (fun fuel => send fuel id subject verb object)
      answer) :
    Simulation.adequacy.Relates store
      (fun fuel => builtinSend (send (fuel - 1)) id subject verb object) answer :=
  Simulation.adequacy_congr hsend fun fuel => (send_succ h fuel subject verb object).symm

/-- A message is answered with what the clauses make of answers that are reached. -/
lemma delivered_of_reached {again : Direct.Meaning}
    (hagain : ∀ scope value result, again scope value = some result → Reached scope value result)
    {subject : Value} {verb : String} {object : Value} {result : Except EvalError Value}
    (hresult : Direct.delivery again subject verb object = some result) :
    Delivered subject verb object result := by
  intro store id h
  have heval : Evaluates .adequacy (fun fuel => send (fuel - 1)) (again (some (subject, object)))
      store id := by
    intro value result hresult
    exact Simulation.adequacy_pred (hagain _ value result hresult h .nil) result rfl
  have hself : Simulation.adequacy.Relates store
      (fun fuel => builtinSend (send (fuel - 1)) id subject "eval" object)
      (again (some (subject, object)) subject) := by
    intro result hresult
    exact adequacy_builtinSend h (hagain _ subject result hresult h object) result rfl
  rw [← hresult]
  exact adequacy_send h (relates_deliver _ heval object hself)

/-- **The answer is reached.**  What the interpreter answers is what a message in a frame that sees
the scope is answered with, given enough fuel. -/
lemma adequacy_interpret {scope : Scope} {value : Value} {result : Except EvalError Value}
    (h : interpret scope value = some result) : Reached scope value result := by
  refine interpret_induction Reached ?_ h
  intro again hagain scope value result hresult store id h object
  have heval : Evaluates .adequacy (fun fuel => send (fuel - 1)) (again scope) store id := by
    intro value result hresult
    exact Simulation.adequacy_pred (hagain scope value result hresult h .nil) result rfl
  have hmessage : ∀ verb operand, Simulation.adequacy.Relates store
      (fun fuel => (send (fuel - 1)).evaluate id (.message verb operand))
      (Direct.evaluation again scope (.message verb operand)) := by
    intro verb operand
    have hoperand : Simulation.adequacy.Relates store
        (fun fuel => builtinSend (send (fuel - 1)) id (.message verb operand) "eval" .nil) _ :=
      relates_evalOperand _ heval .nil verb operand
    exact Simulation.adequacy_pred (adequacy_send h hoperand)
  rw [← hresult]
  refine adequacy_send h (relates_evaluation _ h heval object hmessage ?_ value)
  intro subject verb operand result hresult
  exact Simulation.adequacy_pred
    (delivered_of_reached hagain hresult (h.delivery subject operand)) result rfl

/-- In a frame that sees a scope, a value comes to what the direct interpreter says in the scope. -/
theorem settles_send {store : Store} {id : FrameId} {scope : Scope} (h : store.Sees id scope)
    (value : Value) :
    Settles (fun fuel => ((send fuel id value "eval" .nil).run.run store).1)
      (interpret scope value) := by
  cases hanswer : interpret scope value with
  | some answer =>
      obtain ⟨enough, hyields⟩ := adequacy_interpret hanswer h .nil answer rfl
      exact ⟨enough, fun fuel hfuel => congrArg Prod.fst (hyields fuel hfuel)⟩
  | none =>
      intro fuel
      obtain ⟨result, hyields, happrox⟩ := (refinement_send fuel).1 h value .nil 0
      rw [hanswer] at happrox
      cases result with
      | ok a => cases happrox
      | error halt =>
          cases halt with
          | failed error => cases happrox
          | outOfFuel => exact congrArg Prod.fst hyields

/-! ## Programs -/

/-- A computation goes on in the store that an action on the frames leaves behind. -/
lemma run_frames_bind {α β : Type} (frames : StateM Store α) (body : α → EvalM β)
    (store : Store) :
    ((frames : EvalM α) >>= body).run.run store
      = (body (frames.run store).1).run.run (frames.run store).2 := rfl

/-- A value is evaluated in the root frame of an otherwise empty store. -/
lemma evaluateAtRoot_eq (fuel : Nat) (value : Value) :
    evaluateAtRoot fuel value
      = ((send fuel (Store.addRoot.run {}).1 value "eval" .nil).run.run
          (Store.addRoot.run {}).2).1 := by
  rw [evaluateAtRoot, EvalM.outcome, EvalM.atRoot, run_frames_bind]
  rfl

/-- **Evaluation is direct interpretation.**  In a fresh root frame every value, whatever it holds,
comes to what the direct interpreter says outside of any send: the same value, the same error, or
no answer at all. -/
theorem evaluateAtRoot_settles (value : Value) :
    Settles (fun fuel => evaluateAtRoot fuel value) (interpret none value) := by
  simp only [evaluateAtRoot_eq]
  exact settles_send Store.sees_addRoot value

/-- What a value is evaluated to with some amount of fuel is what it means. -/
lemma interpret_of_evaluateAtRoot {value : Value} {fuel : Nat} {answer : Except EvalError Value}
    (h : evaluateAtRoot fuel value = answer.mapError .failed) :
    interpret none value = some answer := by
  obtain ⟨result, hyields, happrox⟩ :=
    (refinement_send fuel).1 Store.sees_addRoot value .nil 0
  have hresult : result = answer.mapError .failed := by
    rw [← h, evaluateAtRoot_eq]
    exact (congrArg Prod.fst hyields).symm
  rw [hresult] at happrox
  cases answer <;> exact happrox

/-- A text that parses comes to what the direct interpreter says about its value. -/
theorem run_settles {source : String} {e : Expr} (h : parse source = .ok e) :
    Settles (fun fuel => run fuel source)
      ((interpret none (Value.ofExpr e)).map fun answer => answer.mapError .eval) := by
  have hsource : Value.ofSource source = .ok (Value.ofExpr e) := by
    rw [Value.ofSource, h]
    rfl
  simp only [run, hsource, evaluateAtRoot_eq]
  have hsettles := settles_send Store.sees_addRoot (Value.ofExpr e)
  cases hanswer : interpret none (Value.ofExpr e) with
  | none =>
      rw [hanswer] at hsettles
      intro fuel
      have hrun := hsettles fuel
      simp only at hrun
      simp [hrun, Except.mapError, Halt.map]
  | some answer =>
      rw [hanswer] at hsettles
      obtain ⟨enough, hrun⟩ := hsettles
      refine ⟨enough, fun fuel hfuel => ?_⟩
      simp only [hrun fuel hfuel]
      cases answer <;> rfl

/-- What a program answers with some amount of fuel is what its value means. -/
lemma interpret_of_run {source : String} {e : Expr} {fuel : Nat} {answer : Except EvalError Value}
    (h : parse source = .ok e)
    (hrun : run fuel source = answer.mapError fun error => .failed (.eval error)) :
    interpret none (Value.ofExpr e) = some answer := by
  have hsource : Value.ofSource source = .ok (Value.ofExpr e) := by
    rw [Value.ofSource, h]
    rfl
  have hroot : evaluateAtRoot fuel (Value.ofExpr e) = answer.mapError .failed := by
    simp only [run, hsource] at hrun
    cases hresult : evaluateAtRoot fuel (Value.ofExpr e) with
    | ok value => cases answer <;> simp_all [Except.mapError]
    | error halt => cases answer <;> cases halt <;> simp_all [Except.mapError, Halt.map]
  exact interpret_of_evaluateAtRoot hroot

end Missive
