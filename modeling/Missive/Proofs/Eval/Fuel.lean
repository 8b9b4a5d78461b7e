import Missive.Proofs.Eval.Lockstep

/-!
# More fuel changes no answer

In any frame of any store, whatever its prototypes are, an evaluation that comes to an end with some
amount of fuel comes to the same end with more.  So it comes to one outcome.

* `send_of_le`: a message that is answered is answered alike with more fuel.
* `Store.exists_settles`: what the evaluation of a value comes to in a frame.
-/

namespace Missive

namespace EvalM

variable {α β : Type} {store store' : Store}

/-- The second computation ends as the first does, unless that runs out of fuel. -/
def Outlasts (store store' : Store) (x y : EvalM α) : Prop :=
  ∃ result, Yields store x result ∧ (result ≠ .error .outOfFuel → Yields store' y result)

namespace Outlasts

lemma bind {x y : EvalM α} {f g : α → EvalM β} (hxy : Outlasts store store' x y)
    (hfg : ∀ a, Yields store x (.ok a) → Outlasts store store' (f a) (g a)) :
    Outlasts store store' (x >>= f) (y >>= g) := by
  obtain ⟨result, hx, hy⟩ := hxy
  cases result with
  | error halt =>
      refine ⟨.error halt, hx.bind_error f, fun hfuel => ?_⟩
      exact (hy (by simpa using hfuel)).bind_error g
  | ok a =>
      obtain ⟨result, hf, hg⟩ := hfg a hx
      refine ⟨result, (hx.bind_ok f).trans hf, fun hfuel => ?_⟩
      exact ((hy (by simp)).bind_ok g).trans (hg hfuel)

lemma within {frame frame' : Frame} {f g : FrameId → EvalM α}
    (hfg : Outlasts (store.push frame) (store'.push frame') (f store.frames.size)
      (g store'.frames.size)) :
    Outlasts store store' (EvalM.within frame f) (EvalM.within frame' g) := by
  obtain ⟨result, hf, hg⟩ := hfg
  exact ⟨result, hf.within, fun hfuel => (hg hfuel).within⟩

end Outlasts

end EvalM

open EvalM (Yields)

/-- Ending as the other computation does unless that runs out of fuel, as a coupling. -/
def Coupling.outlasting : Coupling where
  Relates := EvalM.Outlasts
  of_yields hx hy := ⟨_, hx, fun _ => hy⟩
  congr hx hy := fun ⟨result, hx', hy'⟩ => ⟨result, hx.trans hx', fun hfuel => hy.trans (hy' hfuel)⟩
  bind := EvalM.Outlasts.bind
  within := EvalM.Outlasts.within

/-! ## Messages -/

variable {store : Store} {id : FrameId} {subject object value : Value} {verb : String}
  {fuel fuel' : Nat}

/-- **More fuel.**  A message that is answered with some amount of fuel is answered alike with
more. -/
theorem send_of_le {result : Except (Halt EvalError) Value} (hfuel : fuel ≤ fuel')
    (h : Yields store (send fuel id subject verb object) result)
    (hresult : result ≠ .error .outOfFuel) :
    Yields store (send fuel' id subject verb object) result := by
  obtain ⟨more, rfl⟩ := Nat.exists_eq_add_of_le' hfuel
  have hzero : ∀ {store store' : Store} {id id' : FrameId} (subject : Value) (verb : String)
      (object : Value), EvalM.Outlasts store store' (send 0 id subject verb object)
        (send more id' subject verb object) :=
    fun _ _ _ => ⟨.error .outOfFuel, rfl, fun hne => absurd rfl hne⟩
  obtain ⟨result', hyields, hmore⟩ :=
    Coupling.send_of_agree (c := .outlasting) more hzero fuel verb (Store.Agree.refl store id _)
  obtain rfl : result' = result := congrArg Prod.fst (hyields.symm.trans h)
  exact hmore hresult

namespace Store

/-- What a value is evaluated to in a frame with some amount of fuel is what it comes to there. -/
lemma settles_of_yields {answer : Except EvalError Value}
    (h : Yields store (evaluate fuel id value) (answer.mapError .failed)) :
    Settles (store.outcomes id value) (some answer) := by
  refine ⟨fuel, fun fuel' hfuel => congrArg Prod.fst (send_of_le hfuel h ?_)⟩
  cases answer <;> simp [Except.mapError]

/-- **Every evaluation comes to one outcome**: a value, an error, or nothing. -/
theorem exists_settles (store : Store) (id : FrameId) (value : Value) :
    ∃ outcome, Settles (store.outcomes id value) outcome := by
  by_cases hnever : ∀ fuel, store.outcomes id value fuel = .error .outOfFuel
  · exact ⟨none, hnever⟩
  · obtain ⟨fuel, hfuel⟩ := Classical.not_forall.1 hnever
    obtain ⟨result, hyields⟩ := exists_yields_send fuel store id value evalVerb .nil
    have hresult : store.outcomes id value fuel = result := congrArg Prod.fst hyields
    rw [hresult] at hfuel
    rcases result with (error | _) | a
    · exact ⟨some (.error error), settles_of_yields hyields⟩
    · exact absurd rfl hfuel
    · exact ⟨some (.ok a), settles_of_yields hyields⟩

end Store

end Missive
