import Missive.Proofs.Eval.Coupling
import Missive.Proofs.Frame.Similar

/-!
# Evaluations in lockstep

Two evaluations, each in a frame and a store of its own, go on in lockstep if their frames agree on
everything that an evaluation can see: they give the same result with the same fuel, and each of
them leaves its store as it is.  That is `Together`.

* `Coupling.send_of_agree`: any coupling holds of every message in such frames, by induction on the
  fuel.
* `together_send`: every message goes on in lockstep.
* `exists_yields_send`: no message changes the store.
-/

namespace Missive

namespace EvalM

/-! ## Computations in lockstep -/

/-- Two computations, each in its own store, that give the same result and leave the stores as they
are. -/
def Together {α : Type} (store store' : Store) (x y : EvalM α) : Prop :=
  ∃ result, Yields store x result ∧ Yields store' y result

namespace Together

variable {α β : Type} {store store' : Store}

lemma ofExcept (answer : Except EvalError α) :
    Together store store' (EvalM.ofExcept answer) (EvalM.ofExcept answer) :=
  ⟨_, yields_ofExcept answer, yields_ofExcept answer⟩

/-- What follows has to go on in lockstep only after the result that there is. -/
lemma bind_of_yields {x y : EvalM α} {f g : α → EvalM β} (hxy : Together store store' x y)
    (hfg : ∀ a, Yields store x (.ok a) → Together store store' (f a) (g a)) :
    Together store store' (x >>= f) (y >>= g) := by
  obtain ⟨result, hx, hy⟩ := hxy
  cases result with
  | error halt => exact ⟨.error halt, hx.bind_error f, hy.bind_error g⟩
  | ok a =>
      obtain ⟨result, hf, hg⟩ := hfg a hx
      exact ⟨result, (hx.bind_ok f).trans hf, (hy.bind_ok g).trans hg⟩

lemma bind {x y : EvalM α} {f g : α → EvalM β} (hxy : Together store store' x y)
    (hfg : ∀ a, Together store store' (f a) (g a)) :
    Together store store' (x >>= f) (y >>= g) :=
  hxy.bind_of_yields fun a _ => hfg a

lemma within {frame frame' : Frame} {f g : FrameId → EvalM α}
    (hfg : Together (store.push frame) (store'.push frame') (f store.frames.size)
      (g store'.frames.size)) :
    Together store store' (EvalM.within frame f) (EvalM.within frame' g) := by
  obtain ⟨result, hf, hg⟩ := hfg
  exact ⟨result, hf.within, hg.within⟩

end Together

end EvalM

open EvalM (Together Yields)

open Value (Exposed)

/-- Going on in lockstep, as a coupling. -/
def Coupling.lockstep : Coupling where
  Relates := Together
  of_yields hx hy := ⟨_, hx, hy⟩
  congr hx hy := fun ⟨result, hx', hy'⟩ => ⟨result, hx.trans hx', hy.trans hy'⟩
  bind := Together.bind_of_yields
  within := Together.within

/-- The names that a message can look up where it is sent. -/
def Seen (subject object : Value) (name : String) : Prop :=
  Exposed (.name name) subject ∨ Exposed (.name name) object

/-- Two ways to send messages that deliver messages alike. -/
def DeliverAlike (store store' : Store) (id id' : FrameId) (sender sender' : Sender) : Prop :=
  ∀ subject verb object, Together (store.push (store.delivery id subject object))
    (store'.push (store'.delivery id' subject object))
    (sender store.frames.size subject verb object)
    (sender' store'.frames.size subject verb object)

/-! ## Messages -/

/-- **Frames that agree.**  A message in two frames that agree on the names that it can look up is
related, whatever fuel the one side has more than the other, if it is related where no fuel is left
on the other. -/
theorem Coupling.send_of_agree {c : Coupling} (more : Nat)
    (hzero : ∀ {store store' : Store} {id id' : FrameId} (subject : Value) (verb : String)
      (object : Value), c.Relates store store' (send 0 id subject verb object)
        (send more id' subject verb object))
    (fuel : Nat) {store store' : Store} {id id' : FrameId} {subject : Value} (verb : String)
    {object : Value} (h : store.Agree id store' id' (Seen subject object)) :
    c.Relates store store' (send fuel id subject verb object)
      (send (more + fuel) id' subject verb object) := by
  induction fuel generalizing store store' id id' subject verb object with
  | zero => exact hzero subject verb object
  | succ fuel ih =>
      refine send_succ (h.findHandler subject verb) ?_ ?_ ?_
      · intro name hname
        exact h.names name (.inl (hname ▸ .self))
      · intro value hvalue
        refine ih evalVerb (h.mono fun name hname => ?_)
        exact hvalue.exposed (hname.resolve_right Value.not_exposed_nil) (by simp)
      · intro _ _ _ _ subject verb object
        exact ih verb (Store.agree_delivery h.similar h.left subject object _)

/-- **In lockstep.**  With the same fuel a message does the same in two frames that agree on the
names that it can look up. -/
theorem together_send (fuel : Nat) {store store' : Store} {id id' : FrameId} {subject : Value}
    (verb : String) {object : Value}
    (h : store.Agree id store' id' (Seen subject object)) :
    Together store store' (send fuel id subject verb object)
      (send fuel id' subject verb object) := by
  have hsend := Coupling.send_of_agree (c := .lockstep) 0 (fun _ _ _ => ⟨_, rfl, rfl⟩) fuel verb h
  rwa [Nat.zero_add] at hsend

/-- A message leaves the store as it is. -/
lemma exists_yields_send (fuel : Nat) (store : Store) (id : FrameId) (subject : Value)
    (verb : String) (object : Value) :
    ∃ result, Yields store (send fuel id subject verb object) result := by
  obtain ⟨result, hyields, -⟩ := together_send fuel verb (Store.Agree.refl store id _)
  exact ⟨result, hyields⟩

end Missive
