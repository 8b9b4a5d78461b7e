import Missive.Proofs.Eval.Refinement
import Missive.Proofs.Value.Nodes

/-!
# Evaluation without self-reference ends

Programs fail to end only by means of `it` and `that`.  Where neither occurs, not even in a deferred
body, an evaluation returns, and the sends in it are nested at most as deep as the value has nodes.

The measure is the number of nodes of a value, and for a message that of the subject and the operand
together.  It works since answers never grow and never gain one of the two names: an answer is tame
for what it is the answer to (`Value.Tame`).

* `EvalM.Returns`: a computation ends with an answer, of which something holds if it is a value.
* `returns_evaluation`, `returns_run`: one reply, given that smaller values and messages are
  answered (`Suffices`).
* `suffices_nodes`: every value and message, by induction on the fuel.
* `evaluateAtRoot_returns`: the root frame of a program.
-/

namespace Missive

namespace EvalM

/-! ## Computations that return -/

variable {α β : Type} {store : Store}

/-- The computation leaves the store as it is and ends with an answer, for which the property holds
if it is no error. -/
def Returns (store : Store) (x : EvalM α) (P : α → Prop) : Prop :=
  ∃ answer : Except EvalError α,
    Yields store x (answer.mapError .failed) ∧ ∀ a, answer = .ok a → P a

namespace Returns

variable {P : α → Prop} {Q : β → Prop}

lemma ofExcept {answer : Except EvalError α} (h : ∀ a, answer = .ok a → P a) :
    Returns store (EvalM.ofExcept answer) P :=
  ⟨answer, yields_ofExcept answer, h⟩

lemma pure {a : α} (h : P a) : Returns store (Pure.pure a) P :=
  ⟨.ok a, rfl, fun _ ha => Except.ok.inj ha ▸ h⟩

lemma fail (error : EvalError) : Returns store (EvalM.fail error) P :=
  ⟨.error error, rfl, fun _ ha => nomatch ha⟩

lemma congr {x y : EvalM α} (hrun : x.run.run store = y.run.run store) (h : Returns store y P) :
    Returns store x P := by
  obtain ⟨answer, hyields, hanswer⟩ := h
  exact ⟨answer, hrun.trans hyields, hanswer⟩

lemma mono {P' : α → Prop} {x : EvalM α} (h : Returns store x P) (himp : ∀ a, P a → P' a) :
    Returns store x P' := by
  obtain ⟨answer, hyields, hanswer⟩ := h
  exact ⟨answer, hyields, fun a ha => himp a (hanswer a ha)⟩

lemma bind {x : EvalM α} {f : α → EvalM β} (hx : Returns store x P)
    (hf : ∀ a, P a → Returns store (f a) Q) : Returns store (x >>= f) Q := by
  obtain ⟨answer, hyields, hanswer⟩ := hx
  cases answer with
  | error error => exact ⟨.error error, hyields.bind_error f, fun _ hb => nomatch hb⟩
  | ok a =>
      obtain ⟨answer, hyields', hanswer'⟩ := hf a (hanswer a rfl)
      exact ⟨answer, (hyields.bind_ok f).trans hyields', hanswer'⟩

lemma map {x : EvalM α} {f : α → β} (hx : Returns store x P) (hf : ∀ a, P a → Q (f a)) :
    Returns store (f <$> x) Q := by
  simp only [map_eq_pure_bind]
  exact hx.bind fun a ha => pure (hf a ha)

lemma foldlM {f : β → α → EvalM β} {items : List α}
    (hf : ∀ b, ∀ a ∈ items, Returns store (f b a) Q) :
    ∀ {b}, Q b → Returns store (items.foldlM f b) Q := by
  induction items with
  | nil => exact pure
  | cons item items ih =>
      intro b _
      simp only [List.foldlM_cons]
      exact (hf b item List.mem_cons_self).bind fun _ hb =>
        ih (fun b a ha => hf b a (List.mem_cons_of_mem _ ha)) hb

lemma mapM {f : α → EvalM β} {R : α → β → Prop} {items : List α}
    (hf : ∀ a ∈ items, Returns store (f a) (R a)) :
    Returns store (items.mapM f) (List.Forall₂ R items) := by
  induction items with
  | nil => exact pure .nil
  | cons item items ih =>
      simp only [List.mapM_cons]
      refine (hf item List.mem_cons_self).bind fun b hb => ?_
      exact (ih fun a ha => hf a (List.mem_cons_of_mem _ ha)).bind fun _ hbs =>
        pure (.cons hb hbs)

lemma within {frame : Frame} {body : FrameId → EvalM α}
    (h : Returns (store.push frame) (body store.frames.size) P) :
    Returns store (EvalM.within frame body) P := by
  obtain ⟨answer, hyields, hanswer⟩ := h
  exact ⟨answer, hyields.within, hanswer⟩

end Returns

end EvalM

open EvalM (Returns)

open Value (Occurs Tame)

/-! ## The answers of operators -/

namespace Operator

variable {subject object result : Value}

lemma integer_eq_ok {op : IntegerOp} (h : integer op subject object = .ok result) :
    ∃ n, result = .integer n := by
  unfold integer at h
  split at h
  · exact ⟨_, (Except.ok.inj h).symm⟩
  · cases h

lemma float_eq_ok {op : FloatOp} (h : float op subject object = .ok result) :
    ∃ x, result = .float x := by
  unfold float at h
  split at h
  · exact ⟨_, (Except.ok.inj h).symm⟩
  · cases h

lemma concat_eq_ok (h : concat subject object = .ok result) : ∃ text, result = .string text := by
  unfold concat at h
  split at h
  · exact ⟨_, (Except.ok.inj h).symm⟩
  · cases h

lemma compare_eq_ok {type : Ordered} {relation : Relation}
    (h : compare type relation subject object = .ok result) :
    result = subject ∨ result = .nil := by
  unfold compare at h
  split at h
  · obtain rfl := Except.ok.inj h
    split
    · exact .inl rfl
    · exact .inr rfl
  · cases h

lemma compareNil_eq_ok {relation : Relation} (h : compareNil relation subject object = .ok result) :
    result = object ∨ result = .nil ∨ result = .integer 1 := by
  unfold compareNil at h
  split at h
  · cases relation <;> obtain rfl := Except.ok.inj h <;> cases object.isNil <;> simp
  · cases h

lemma entry_eq_ok (h : entry subject object = .ok result) :
    result ∈ subject.parts ∨ result = .nil := by
  unfold entry at h
  split at h
  · rename_i entries key
    obtain rfl := Except.ok.inj h
    cases hlookup : entries.lookup key with
    | none => exact .inr rfl
    | some value =>
        obtain ⟨before, after, rfl, -⟩ := List.lookup_eq_some_iff.mp hlookup
        exact .inl (by simp)
  · cases h
  · cases h

end Operator

/-! ## Replies -/

/-- With some amount of fuel, every selfless value that has no more nodes is evaluated and every
selfless message is delivered. -/
structure Suffices (fuel : Nat) : Prop where
  evaluate {store : Store} {id : FrameId} {scope : Scope} {value : Value} :
    store.Sees id scope → value.Selfless → value.nodes ≤ fuel → ∀ object,
      Returns store (send fuel id value evalVerb object) (Tame value.nodes)
  deliver {store : Store} {id : FrameId} {subject object : Value} :
    store.Sees id (some (subject, object)) → subject.Selfless → object.Selfless →
      subject.nodes + object.nodes ≤ fuel → ∀ verb,
      Returns store (send fuel id subject verb object) (Tame (subject.nodes + object.nodes))

section Replies

variable {fuel : Nat} (ih : Suffices fuel) {store : Store} {id : FrameId} {scope : Scope}
  (h : store.Sees id scope)

include h

/-- Nothing but `it` and `that` is ever bound. -/
lemma returns_lookUp (sender : Sender) {text : String} (htext : text ≠ "it" ∧ text ≠ "that")
    (object : Value) (P : Value → Prop) :
    Returns store (Reply.lookUp.run sender id (.name text) object) P := by
  have hfind : store.find id text = none := by
    rw [h.names]
    cases scope with
    | none => rfl
    | some bound => rw [Scope.find?, if_neg htext.1, if_neg htext.2]
  have hlookUp : EvalM.Yields store (Reply.lookUp.run sender id (.name text) object) _ :=
    EvalM.yields_lookUp sender id text object
  rw [hfind] at hlookUp
  exact ⟨.error (.nameNotFound text), hlookUp, fun _ ha => by cases ha⟩

include ih

lemma returns_dispatch {subject object : Value} {verb : String} (hsubject : subject.Selfless)
    (hobject : object.Selfless) (hfuel : subject.nodes + object.nodes ≤ fuel) (argument : Value) :
    Returns store (Reply.dispatch.run (send fuel) id (.send subject verb object) argument)
      (Tame (subject.nodes + object.nodes)) := by
  have hmessage : Returns store ((send fuel).evaluate id (.message verb object))
      (Tame (object.nodes + 1)) := by
    have hpos := subject.nodes_pos
    refine ih.evaluate h (hobject.message verb) ?_ .nil
    rw [Value.nodes]
    omega
  refine (ih.evaluate h hsubject (by omega) .nil).bind fun subject' hsubject' => ?_
  refine hmessage.bind fun message' hmessage' => ?_
  cases message' with
  | message verb object' =>
      have hobject' : Tame object.nodes object' := hmessage'.part (by simp)
      have hsum := Nat.add_le_add hsubject'.nodes_le hobject'.nodes_le
      have hdelivery := ih.deliver (h.delivery subject' object') hsubject'.selfless
        hobject'.selfless (hsum.trans hfuel) verb
      have hwithin : Returns store
          (EvalM.within (store.delivery id subject' object') fun delivery =>
            send fuel delivery subject' verb object') (Tame (subject'.nodes + object'.nodes)) :=
        .within hdelivery
      exact hwithin.mono fun _ hresult => hresult.mono hsum
  | _ => exact .fail _

/-- **Evaluation.**  A value evaluates itself, given that its parts do. -/
lemma returns_evaluation {tag : Tag} {reply : Reply} (hreply : tag.evalReply? = some reply)
    {subject : Value} (hsubject : subject.Selfless) (hfuel : subject.nodes ≤ fuel + 1)
    (object : Value) :
    Returns store (reply.run (send fuel) id subject object) (Tame subject.nodes) := by
  have hpart : ∀ part ∈ subject.parts,
      Returns store ((send fuel).evaluate id part) (Tame part.nodes) := by
    intro part hpart
    have hnodes := Value.nodes_lt_of_mem_parts hpart
    exact ih.evaluate h (hsubject.part hpart) (by omega) .nil
  have hself : Tame subject.nodes subject := ⟨hsubject, Nat.le_refl _⟩
  cases tag with
  | nil | integer | float | string =>
      cases hreply
      exact .pure hself
  | name =>
      cases hreply
      cases subject with
      | name text => exact returns_lookUp h _ (hsubject text .self) object _
      | _ => exact .fail _
  | later =>
      cases hreply
      cases subject with
      | later body =>
          have hbody : Tame body.nodes body := hself.part (by simp)
          exact .pure (hbody.mono (Nat.le_succ _))
      | _ => exact .fail _
  | block =>
      cases hreply
      cases subject with
      | block items =>
          refine .foldlM (fun _ item hitem => (hpart item hitem).mono fun result hresult => ?_) ?_
          · exact hresult.mono (Value.nodes_lt_of_mem_parts hitem).le
          · exact .leaf rfl (by simp) (Value.nodes_pos _)
      | _ => exact .fail _
  | array =>
      cases hreply
      cases subject with
      | array items => exact .map (.mapM hpart) fun results hresults => .rebuild (by simp) hresults
      | _ => exact .fail _
  | map =>
      cases hreply
      cases subject with
      | map entries =>
          have hentry : ∀ entry ∈ entries, Returns store
              ((entry.1, ·) <$> (send fuel).evaluate id entry.2)
              fun result => Tame entry.2.nodes result.2 :=
            fun entry hentry => .map (hpart entry.2 (List.mem_map_of_mem hentry)) fun _ h => h
          refine .map (.mapM hentry) fun results hresults => .rebuild (by simp) ?_
          exact List.forall₂_map_left_iff.mpr (List.forall₂_map_right_iff.mpr hresults)
      | _ => exact .fail _
  | pair =>
      cases hreply
      cases subject with
      | pair left right =>
          refine (hpart left (by simp)).bind fun left' hleft => ?_
          refine (hpart right (by simp)).bind fun right' hright => ?_
          exact .pure (.rebuild (by simp) (.cons hleft (.cons hright .nil)))
      | _ => exact .fail _
  | message =>
      cases hreply
      cases subject with
      | message verb operand =>
          exact .map (hpart operand (by simp)) fun operand' hoperand =>
            .rebuild (by simp) (.cons hoperand .nil)
      | _ => exact .fail _
  | send =>
      cases hreply
      cases subject with
      | send first verb operand =>
          refine (returns_dispatch ih h (hsubject.part (by simp)) (hsubject.part (by simp))
            (Nat.le_of_succ_le_succ hfuel) object).mono fun _ hresult => ?_
          exact hresult.mono (Nat.le_succ _)
      | _ => exact .fail _
  | handler => cases hreply

/-- **One reply.**  A message is answered, given that smaller values are evaluated and smaller
messages are delivered. -/
lemma returns_run {subject object : Value} (hsubject : subject.Selfless)
    (hobject : object.Selfless) (hfuel : subject.nodes + object.nodes ≤ fuel + 1) (reply : Reply) :
    Returns store (reply.run (send fuel) id subject object)
      (Tame (subject.nodes + object.nodes)) := by
  have hsubject_pos := subject.nodes_pos
  have hobject_pos := object.nodes_pos
  have hsubject' : Tame (subject.nodes + object.nodes) subject := ⟨hsubject, Nat.le_add_right _ _⟩
  have hobject' : Tame (subject.nodes + object.nodes) object := ⟨hobject, Nat.le_add_left _ _⟩
  have hleaf : ∀ {value : Value}, value.parts = [] → (∀ text, value ≠ .name text) →
      Tame (subject.nodes + object.nodes) value :=
    fun hparts hname => .leaf hparts hname (by omega)
  have heval : ∀ tag : Tag, tag.evalReply? = some reply →
      Returns store (reply.run (send fuel) id subject object)
        (Tame (subject.nodes + object.nodes)) :=
    fun _ hreply => (returns_evaluation ih h hreply hsubject (by omega) object).mono
      fun _ hresult => hresult.mono (Nat.le_add_right _ _)
  have hagain : ∀ {part : Value}, part.Selfless → part.nodes ≤ object.nodes →
      Returns store ((send fuel).evaluate id part) (Tame (subject.nodes + object.nodes)) :=
    fun hpart hnodes => (ih.evaluate h hpart (by omega) .nil).mono
      fun _ hresult => hresult.mono (by omega)
  cases reply with
  | itself => exact heval .nil rfl
  | lookUp => exact heval .name rfl
  | force => exact heval .later rfl
  | runItems => exact heval .block rfl
  | evalItems => exact heval .array rfl
  | evalEntries => exact heval .map rfl
  | evalSides => exact heval .pair rfl
  | evalOperand => exact heval .message rfl
  | dispatch => exact heval .send rfl
  | choose =>
      cases object with
      | pair left right =>
          have hside : ∀ side ∈ Value.parts (.pair left right),
              Returns store ((send fuel).evaluate id side) _ :=
            fun side hside => hagain (hobject.part hside) (Value.nodes_lt_of_mem_parts hside).le
          exact hside (if subject.isNil then right else left) (by cases subject.isNil <;> simp)
      | _ => exact .fail _
  | conjunction =>
      cases subject with
      | nil => exact .pure hsubject'
      | _ => exact hagain hobject (Nat.le_refl _)
  | alternative =>
      cases subject with
      | nil => exact hagain hobject (Nat.le_refl _)
      | _ => exact .pure hsubject'
  | integerOp op =>
      refine .ofExcept fun result hresult => ?_
      obtain ⟨n, rfl⟩ := Operator.integer_eq_ok hresult
      exact hleaf rfl (by simp)
  | floatOp op =>
      refine .ofExcept fun result hresult => ?_
      obtain ⟨x, rfl⟩ := Operator.float_eq_ok hresult
      exact hleaf rfl (by simp)
  | concat =>
      refine .ofExcept fun result hresult => ?_
      obtain ⟨text, rfl⟩ := Operator.concat_eq_ok hresult
      exact hleaf rfl (by simp)
  | compare type relation =>
      refine .ofExcept fun result hresult => ?_
      obtain rfl | rfl := Operator.compare_eq_ok hresult
      · exact hsubject'
      · exact hleaf rfl (by simp)
  | compareNil relation =>
      refine .ofExcept fun result hresult => ?_
      obtain rfl | rfl | rfl := Operator.compareNil_eq_ok hresult
      · exact hobject'
      · exact hleaf rfl (by simp)
      · exact hleaf rfl (by simp)
  | entry =>
      refine .ofExcept fun result hresult => ?_
      obtain hpart | rfl := Operator.entry_eq_ok hresult
      · have hnodes := Value.nodes_lt_of_mem_parts hpart
        exact ⟨hsubject.part hpart, by omega⟩
      · exact hleaf rfl (by simp)

end Replies

/-! ## Values and messages -/

/-- As much fuel as there are nodes is enough. -/
lemma suffices_nodes (fuel : Nat) : Suffices fuel := by
  induction fuel with
  | zero =>
      constructor
      · intro store id scope value _ _ hnodes
        exact absurd hnodes (Nat.not_le_of_gt value.nodes_pos)
      · intro store id subject object _ _ _ hnodes
        have hpos := subject.nodes_pos
        omega
  | succ fuel ih =>
      constructor
      · intro store id scope value h hvalue hnodes object
        refine .congr (send_succ h fuel value evalVerb object) ?_
        rw [builtinSend, Tag.reply?_eval]
        cases hreply : value.tag.evalReply? with
        | none => exact .fail _
        | some reply => exact returns_evaluation ih h hreply hvalue hnodes object
      · intro store id subject object h hsubject hobject hnodes verb
        refine .congr (send_succ h fuel subject verb object) ?_
        rw [builtinSend]
        cases subject.tag.reply? verb with
        | none => exact .fail _
        | some reply => exact returns_run ih h hsubject hobject hnodes reply

/-! ## Programs -/

/-- **Termination.**  If neither `it` nor `that` occurs in a value, then its evaluation in a fresh
root frame returns, with sends nested at most as deep as the value has nodes; and a value that it
returns has at most as many nodes. -/
theorem evaluateAtRoot_returns {value : Value} (hit : ¬ Occurs (.name "it") value)
    (hthat : ¬ Occurs (.name "that") value) {fuel : Nat} (hfuel : value.nodes ≤ fuel) :
    ∃ answer : Except EvalError Value, evaluateAtRoot fuel value = answer.mapError .failed ∧
      ∀ result, answer = .ok result → result.nodes ≤ value.nodes := by
  have hselfless : value.Selfless := by
    intro text htext
    constructor
    · rintro rfl
      exact hit htext
    · rintro rfl
      exact hthat htext
  obtain ⟨answer, hyields, hanswer⟩ :=
    (suffices_nodes fuel).evaluate Store.sees_addRoot hselfless hfuel .nil
  refine ⟨answer, ?_, fun result hresult => (hanswer result hresult).nodes_le⟩
  rw [evaluateAtRoot_eq]
  exact congrArg Prod.fst hyields

/-- The value of `() or @(() or value)`, in which the inner message is deferred once and evaluated
when the outer one is delivered. -/
def deferredOr (value : Value) : Value :=
  .send .nil "or" (.later (.send .nil "or" value))

lemma not_occurs_deferredOr {text : String} (n : Int64) :
    ¬ Occurs (.name text) (deferredOr (.integer n)) := by
  intro h
  obtain ⟨part, hpart, h⟩ := h.exists_piece (by simp [deferredOr])
  obtain rfl | rfl : part = .nil ∨ part = .later (.send .nil "or" (.integer n)) := by
    simpa [deferredOr] using hpart
  · exact Value.not_partOf_leaf rfl (by simp) h
  · obtain ⟨body, hbody, h⟩ := h.exists_piece (by simp)
    obtain rfl : body = .send .nil "or" (.integer n) := by simpa using hbody
    obtain ⟨leaf, hleaf, h⟩ := h.exists_piece (by simp)
    obtain rfl | rfl : leaf = .nil ∨ leaf = .integer n := by simpa using hleaf
    · exact Value.not_partOf_leaf rfl (by simp) h
    · exact Value.not_partOf_leaf rfl (by simp) h

/-- The value `() or @(() or 5)` has six nodes. -/
theorem evaluateAtRoot_returns_deferredOr :
    ∃ answer : Except EvalError Value,
      evaluateAtRoot 6 (deferredOr (.integer 5)) = answer.mapError .failed ∧
        ∀ result, answer = .ok result → result.nodes ≤ 6 :=
  evaluateAtRoot_returns (not_occurs_deferredOr 5) (not_occurs_deferredOr 5) (by decide)

example : evaluateAtRoot 6 (deferredOr (.integer 5)) = .ok (.integer 5) := by cbv
example : evaluateAtRoot 6 (deferredOr (.name "that")) = .error .outOfFuel := by cbv

end Missive
