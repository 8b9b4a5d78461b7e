import Missive.Proofs.Eval.Lockstep
import Mathlib

/-!
# What an evaluation can see

An evaluation sees of its frame the frame to the left, the prototypes, and the values of those names
that occur in the value outside of every deferred body.  Names inside of a deferred body are looked
up only if the body is evaluated later on, and then in another frame.  Once the parts of a send have
been evaluated, nothing but the frame to the left is seen: neither the bindings of the frame, nor
the `it` and `that` of a send around it.

* `evaluate_noninterference`: both statements, for two frames of one store.
-/

namespace Missive

open EvalM (Together)

open Value (Exposed)

/-- A pending send whose subject and message are evaluated to the given ones. -/
def Prepares (store : Store) (fuel : Nat) (id : FrameId) (pending subject : Value) (verb : String)
    (object : Value) : Prop :=
  ∃ first second operand, pending = .send first second operand ∧
    EvalM.Yields store (evaluate fuel id first) (.ok subject) ∧
    EvalM.Yields store (evaluate fuel id (.message second operand)) (.ok (.message verb object))

/-- What is left of a send whose parts have been evaluated is the delivery. -/
lemma Prepares.dispatch {store : Store} {fuel : Nat} {id : FrameId} {pending subject : Value}
    {verb : String} {object : Value} (h : Prepares store fuel id pending subject verb object)
    (argument : Value) :
    (Reply.dispatch.run (send fuel) id pending argument).run.run store
      = (EvalM.within (store.delivery id subject object) fun delivery =>
          send fuel delivery subject verb object).run.run store := by
  obtain ⟨first, second, operand, rfl, hfirst, hsecond⟩ := h
  exact (hfirst.bind_ok _).trans (hsecond.bind_ok _)

/-- **Noninterference.**  Of two frames with the same frame to the left, nothing else can be seen
but the prototypes and the values of names.

* If they have the same prototypes, and the same values for the names that are exposed in a value,
  then the value is evaluated to the same result in both, with any amount of fuel.
* If two pending sends have been evaluated to the same subject and the same message, one in each
  frame, then they come to the same result, whatever else is bound in the frames. -/
theorem evaluate_noninterference {store : Store} {id id' : FrameId}
    (hleft : (store.frame id).left = (store.frame id').left) :
    (∀ value,
      (∀ tag, store.findPrototype id tag = store.findPrototype id' tag) →
      (∀ name, Exposed (.name name) value → store.find id name = store.find id' name) →
      ∀ fuel, ((evaluate fuel id value).run.run store).1
        = ((evaluate fuel id' value).run.run store).1) ∧
    (∀ fuel pending pending' subject verb object,
      Prepares store fuel id pending subject verb object →
      Prepares store fuel id' pending' subject verb object →
      ∀ argument argument',
        ((Reply.dispatch.run (send fuel) id pending argument).run.run store).1
          = ((Reply.dispatch.run (send fuel) id' pending' argument').run.run store).1) := by
  have hresult : ∀ {x y : EvalM Value}, Together store store x y →
      (x.run.run store).1 = (y.run.run store).1 := by
    rintro x y ⟨result, hx, hy⟩
    rw [hx, hy]
  constructor
  · intro value hprototypes hnames fuel
    refine hresult (together_send fuel evalVerb ⟨.refl store, hleft, hprototypes, ?_⟩)
    intro name hname
    exact hnames name (hname.resolve_right Value.not_exposed_nil)
  · intro fuel pending pending' subject verb object h h' argument argument'
    rw [h.dispatch, h'.dispatch]
    exact hresult (Together.within
      (together_send fuel verb (Store.agree_delivery (.refl store) hleft subject object _)))

/-- A store with two frames below the root frame: one for the delivery of `2` to `1`, and one for
the delivery of `4` to `3` from there. -/
def nestedDeliveries : Store :=
  let (root, store) := Store.addRoot.run {}
  let outer := store.push (store.delivery root (.integer 1) (.integer 2))
  outer.push (outer.delivery store.frames.size (.integer 3) (.integer 4))

lemma left_nestedDeliveries :
    (nestedDeliveries.frame 15).left = (nestedDeliveries.frame 16).left := by
  cbv

lemma findPrototype_nestedDeliveries (tag : Tag) :
    nestedDeliveries.findPrototype 15 tag = nestedDeliveries.findPrototype 16 tag := by
  have hchain : nestedDeliveries.chain 15 = [15, 0] ∧ nestedDeliveries.chain 16 = [16, 0] := by
    cbv
  have hnone : (nestedDeliveries.frame 15).prototypes = [] ∧
      (nestedDeliveries.frame 16).prototypes = [] := by
    cbv
  rw [Store.findPrototype, Store.findPrototype, hchain.1, hchain.2]
  simp [Store.findPrototypeHere, hnone]

lemma prepares_outer : Prepares nestedDeliveries 2 15 (.send (.name "it") "+" (.name "that"))
    (.integer 1) "+" (.integer 2) :=
  ⟨_, _, _, rfl, by cbv, by cbv⟩

lemma prepares_inner : Prepares nestedDeliveries 2 16 (.send (.integer 1) "+" (.integer 2))
    (.integer 1) "+" (.integer 2) :=
  ⟨_, _, _, rfl, by cbv, by cbv⟩

lemma not_exposed_deferred {name : String} :
    ¬ Exposed (.name name) (.send (.later (.name "it")) "eval" .nil) := by
  intro h
  obtain ⟨piece, hpiece, hname⟩ := h.exists_piece (by simp)
  obtain rfl | rfl : piece = .later (.name "it") ∨ piece = .nil := by simpa using hpiece
  · exact Value.not_partOf_leaf rfl (by simp) hname
  · exact Value.not_exposed_nil hname

/-- In the frame of an outer delivery and in that of an inner one, a deferred `it` that is told to
evaluate itself comes to the same, and so do `it + that` in the one and `1 + 2` in the other. -/
theorem evaluate_noninterference_nestedDeliveries :
    ((evaluate 4 15 (.send (.later (.name "it")) "eval" .nil)).run.run nestedDeliveries).1
        = ((evaluate 4 16 (.send (.later (.name "it")) "eval" .nil)).run.run nestedDeliveries).1 ∧
      ((Reply.dispatch.run (send 2) 15 (.send (.name "it") "+" (.name "that")) .nil).run.run
          nestedDeliveries).1
        = ((Reply.dispatch.run (send 2) 16 (.send (.integer 1) "+" (.integer 2)) .nil).run.run
            nestedDeliveries).1 := by
  obtain ⟨hevaluate, hdispatch⟩ := evaluate_noninterference left_nestedDeliveries
  exact ⟨hevaluate _ findPrototype_nestedDeliveries
      (fun name hname => absurd hname not_exposed_deferred) 4,
    hdispatch 2 _ _ _ _ _ prepares_outer prepares_inner .nil .nil⟩

end Missive
