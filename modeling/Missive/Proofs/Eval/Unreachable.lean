import Missive.Proofs.Eval.Failures
import Missive.Proofs.Eval.Lockstep
import Mathlib

/-!
# Checks that never fail

Most handlers check that their subject is of their own type, and a send checks that its message is
still a message once it has been evaluated.  Where every type has its built-in replies no program
gets one of these checks to fail, so it makes no difference what would happen then.

* `Reply.runElse`: a reply in which these checks are followed by something else if they fail.  It is
  the reply itself if what follows is the error (`Reply.runElse_mismatch`).
* `together_sendElse`: messages do the same whatever follows, by induction on the fuel.
* `run_failures`: how a program fails, and that its checks do not.
-/

namespace Missive

open EvalM (Together Yields)

/-! ## Failing checks -/

/-- What is done when a check fails, given the wanted type, the subject, and the operand or what has
been found in its place. -/
abbrev Otherwise := Tag → Value → Value → EvalM Value

namespace Reply

/-- The type that a reply wants its subject to have. -/
def wants? : Reply → Option Tag
  | itself | choose | conjunction | alternative => none
  | lookUp => some .name
  | force => some .later
  | runItems => some .block
  | evalItems => some .array
  | evalEntries => some .map
  | evalSides => some .pair
  | evalOperand => some .message
  | dispatch => some .send
  | integerOp _ => some .integer
  | floatOp _ => some .float
  | concat => some .string
  | compare type _ => some type.tag
  | compareNil _ => some .nil
  | entry => some .map

/-- What a reply does if its subject is not of the type that it wants, or if it is a send and its
message is not evaluated to a message, is left open.  Otherwise it does what it does. -/
def runElse (otherwise : Otherwise) (send : Sender) (frame : FrameId) (subject object : Value)
    (reply : Reply) : EvalM Value :=
  match reply, subject with
  | .dispatch, .send subject verb object => do
    let subject ← send.evaluate frame subject
    match ← send.evaluate frame (.message verb object) with
    | .message verb object =>
      EvalM.within ((← get).delivery frame subject object) fun delivery =>
        send delivery subject verb object
    | other => otherwise .message subject other
  | reply, subject =>
    match reply.wants? with
    | some wanted =>
      if subject.tag = wanted then reply.run send frame subject object
      else otherwise wanted subject object
    | none => reply.run send frame subject object

/-- A reply fails with a mismatch where its checks fail. -/
lemma runElse_mismatch (send : Sender) (frame : FrameId) (subject object : Value) (reply : Reply) :
    reply.runElse (fun wanted subject object => EvalM.fail (.mismatch wanted subject object)) send
        frame subject object
      = reply.run send frame subject object := by
  cases reply with
  | compare type relation =>
      change (if subject.tag = type.tag then _ else _) = _
      split_ifs with htag
      · rfl
      · rw [run, Operator.compare, if_neg fun hboth => htag hboth.1]
        rfl
  | _ => cases subject <;> rfl

/-- Where the subject has the type that the reply wants, only sends are left open. -/
lemma runElse_of_wants {otherwise : Otherwise} {subject : Value} {reply : Reply}
    (hreply : reply ≠ .dispatch) (hwants : ∀ wanted ∈ reply.wants?, subject.tag = wanted)
    (send : Sender) (frame : FrameId) (object : Value) :
    reply.runElse otherwise send frame subject object = reply.run send frame subject object := by
  have hopen : reply.runElse otherwise send frame subject object
      = match reply.wants? with
        | some wanted =>
          if subject.tag = wanted then reply.run send frame subject object
          else otherwise wanted subject object
        | none => reply.run send frame subject object := by
    cases reply with
    | dispatch => exact absurd rfl hreply
    | _ => rfl
  rw [hopen]
  cases hwanted : reply.wants? with
  | none => rfl
  | some wanted => exact if_pos (hwants wanted hwanted)

end Reply

/-- A type has replies only that want it. -/
lemma Tag.eq_of_wants {tag : Tag} {verb : String} {reply : Reply}
    (h : tag.reply? verb = some reply) : ∀ wanted ∈ reply.wants?, tag = wanted := by
  have hall : ∀ replies ∈ tag.replies?, ∀ entry ∈ replies,
      ∀ wanted ∈ entry.2.wants?, tag = wanted := by
    cases tag <;> decide
  obtain ⟨replies, hreplies, hlookup⟩ := Option.bind_eq_some_iff.mp h
  obtain ⟨before, after, rfl, -⟩ := List.lookup_eq_some_iff.mp hlookup
  exact hall _ hreplies (verb, reply) (by simp)

/-! ## Messages -/

/-- Sends a message, and does something else where a check fails. -/
def sendElse (otherwise : Otherwise) : Nat → Sender
  | 0, _, _, _, _ => throw .outOfFuel
  | fuel + 1, frame, subject, verb, object => do
    let handler ← EvalM.ofExcept ((← get).findHandler frame subject verb)
    handler.reply.runElse otherwise (sendElse otherwise fuel) frame subject object

/-- The outcome of a program text if something else is done where a check fails. -/
def runElse (otherwise : Otherwise) (fuel : Nat) (source : String) : Except (Halt Error) Value :=
  match Value.ofSource source with
  | .error error => .error (.failed (.read error))
  | .ok value =>
    (EvalM.atRoot fun root => (sendElse otherwise fuel).evaluate root value).outcome.mapError
      (Halt.map .eval)

/-- The handler that is found has the built-in reply. -/
lemma Store.Sees.reply? {store : Store} {id : FrameId} {scope : Scope} (h : store.Sees id scope)
    {subject : Value} {verb : String} {handler : Handler}
    (hfound : store.findHandler id subject verb = .ok handler) :
    subject.tag.reply? verb = some handler.reply := by
  rw [← h.replies, Store.replyTo]
  unfold Store.findHandler at hfound
  split at hfound <;> cases hfound
  rename_i hbound
  rw [hbound]
  rfl

/-- A message that is evaluated stays one. -/
lemma Store.Sees.message {store : Store} {id : FrameId} {scope : Scope} (h : store.Sees id scope)
    {fuel : Nat} {verb : String} {operand result : Value}
    (hyields : Yields store ((send fuel).evaluate id (.message verb operand)) (.ok result)) :
    ∃ object, result = .message verb object := by
  obtain ⟨result', hyields', happrox⟩ := (refinement_send fuel).1 h (.message verb operand) .nil 0
  obtain rfl : result' = .ok result := congrArg Prod.fst (hyields'.symm.trans hyields)
  have hmeaning : interpret scope (.message verb operand) = some (.ok result) := happrox
  rw [interpret_eq, Direct.evaluation] at hmeaning
  cases hobject : interpret scope operand with
  | none =>
      rw [hobject] at hmeaning
      cases hmeaning
  | some answer =>
      rw [hobject] at hmeaning
      cases answer with
      | error error => cases hmeaning
      | ok object =>
          cases hmeaning
          exact ⟨object, rfl⟩

/-- **Checks do not fail.**  Where every type has its built-in replies, a message does the same
whatever follows a failing check. -/
theorem together_sendElse (otherwise : Otherwise) (fuel : Nat) {store : Store} {id : FrameId}
    {scope : Scope} (h : store.Sees id scope) (subject : Value) (verb : String) (object : Value) :
    Together store store (send fuel id subject verb object)
      (sendElse otherwise fuel id subject verb object) := by
  induction fuel generalizing store id scope subject verb object with
  | zero => exact ⟨.error .outOfFuel, rfl, rfl⟩
  | succ fuel ih =>
      have heval : ∀ value, Together store store ((send fuel).evaluate id value)
          ((sendElse otherwise fuel).evaluate id value) :=
        fun value => ih h value evalVerb .nil
      have hdeliver : DeliverAlike store store id id (send fuel) (sendElse otherwise fuel) :=
        fun subject verb object => ih (h.delivery subject object) subject verb object
      have hsame : Together store store
          (EvalM.ofExcept (store.findHandler id subject verb) : EvalM Handler)
          (EvalM.ofExcept (store.findHandler id subject verb)) :=
        .ofExcept _
      refine hsame.bind_of_yields fun handler hyields => ?_
      have hfound : store.findHandler id subject verb = .ok handler := by
        cases hanswer : store.findHandler id subject verb with
        | error error =>
            rw [hanswer] at hyields
            cases hyields
        | ok found =>
            rw [hanswer] at hyields
            cases hyields
            rfl
      have hwants := Tag.eq_of_wants (h.reply? hfound)
      by_cases hdispatch : handler.reply = .dispatch
      · rw [hdispatch] at hwants ⊢
        obtain ⟨first, second, operand, rfl⟩ :
            ∃ first second operand, subject = .send first second operand := by
          have htag := hwants .send rfl
          cases subject <;> cases htag
          exact ⟨_, _, _, rfl⟩
        refine (heval first).bind fun subject => ?_
        refine (heval (.message second operand)).bind_of_yields fun message hyields => ?_
        obtain ⟨object, rfl⟩ := h.message hyields
        exact Together.within (f := fun delivery => send fuel delivery subject second object)
          (g := fun delivery => sendElse otherwise fuel delivery subject second object)
          (hdeliver subject second object)
      · rw [Reply.runElse_of_wants hdispatch hwants]
        exact Coupling.reply (c := .lockstep) (fun _ _ => rfl) (fun value _ => heval value)
          (fun _ _ _ _ => hdeliver) handler.reply

/-! ## Programs -/

/-- A program does the same whatever follows a failing check. -/
lemma runElse_eq_run (otherwise : Otherwise) (fuel : Nat) (source : String) :
    runElse otherwise fuel source = run fuel source := by
  rw [runElse, run]
  cases Value.ofSource source with
  | error error => rfl
  | ok value =>
      obtain ⟨result, hsend, helse⟩ := together_sendElse otherwise fuel Store.sees_addRoot value
        evalVerb .nil
      simp only [evaluateAtRoot, EvalM.outcome, EvalM.atRoot, run_frames_bind]
      rw [evaluate, Sender.evaluate, Sender.evaluate, hsend, helse]

/-- **How programs fail.**  If a program fails at run time then it is for a mistake in the program:
a name or a verb that stands for nothing, or an operand of a wrong type.  No handler ever finds its
subject to be of another type than its own, and no send its message to be something else: whatever
would be done in such a case, the program comes to the same. -/
theorem run_failures (source : String) (fuel : Nat) :
    (∀ error, run fuel source = .error (.failed (.eval error)) →
      ∃ program, Value.ofSource source = .ok program ∧ Meaningful program error) ∧
    ∀ otherwise, runElse otherwise fuel source = run fuel source := by
  refine ⟨fun error hrun => ?_, fun otherwise => runElse_eq_run otherwise fuel source⟩
  cases hparse : parse source with
  | error failure =>
      rw [run, Value.ofSource, hparse] at hrun
      cases hrun
  | ok e =>
      have hmeaning : interpret none (Value.ofExpr e) = some (.error error) :=
        interpret_of_run hparse hrun
      have hprogram : (Value.ofExpr e).Unhandled := Value.written_ofExpr fun _ _ => trivial
      refine ⟨Value.ofExpr e, ?_, meaningful_of_interpret hprogram hmeaning⟩
      rw [Value.ofSource, hparse]
      rfl

/-- A program that fails because strings cannot be subtracted. -/
def subtractingSource : String :=
  "\"a\" - 1"

/-- The error names the verb and the string; and it would be the same if failing checks were
answered with nil. -/
theorem run_failures_subtractingSource :
    Meaningful (.send (.string "a") "-" (.integer 1)) (.handlerNotFound .string "-" "\"a\"") ∧
      runElse (fun _ _ _ => pure .nil) 3 subtractingSource
        = .error (.failed (.eval (.handlerNotFound .string "-" "\"a\""))) := by
  have hrun : run 3 subtractingSource
      = .error (.failed (.eval (.handlerNotFound .string "-" "\"a\""))) := by
    cbv
  have hsource : Value.ofSource subtractingSource
      = .ok (.send (.string "a") "-" (.integer 1)) := by
    cbv
  obtain ⟨hfails, helse⟩ := run_failures subtractingSource 3
  obtain ⟨program, hprogram, hmeaningful⟩ := hfails _ hrun
  obtain rfl := Except.ok.inj (hsource.symm.trans hprogram)
  exact ⟨hmeaningful, (helse _).trans hrun⟩

end Missive
