import Missive.Proofs.Eval.Refinement
import Missive.Proofs.Eval.Termination
import Missive.Proofs.Eval.Written
import Mathlib

/-!
# Deferred operands

A message whose operand is deferred has it evaluated when the message is delivered, in a scope of
its own, or not at all.  Where neither `it` nor `that` is exposed in the operand this makes no
difference to it: the side that a condition chooses comes to what it comes to outside of the
message, even if that is an error or nothing at all, and the other side is never looked at.

* `Value.Scopeless`: neither `it` nor `that` is exposed in a value.
* `evaluateAtRoot_deferred`: the choice between two deferred values, and `and` and `or` with one.
-/

namespace Missive

open Value (Exposed)

/-- Neither `it` nor `that` is exposed in the value. -/
def Value.Scopeless (value : Value) : Prop :=
  ∀ text, Exposed (.name text) value → text ≠ "it" ∧ text ≠ "that"

/-- Two computations with fuel come to one outcome. -/
def SettleAlike {ε α : Type} (run run' : Nat → Except (Halt ε) α) : Prop :=
  ∃ outcome, Settles run outcome ∧ Settles run' outcome

/-- Neither `it` nor `that` is exposed in a value that is no name if they are not in its parts. -/
lemma Value.Scopeless.of_parts {value : Value} (hname : ∀ text, value ≠ .name text)
    (hparts : ∀ part ∈ value.exposedParts, part.Scopeless) : value.Scopeless := by
  intro text htext
  obtain ⟨part, hpart, htext⟩ := htext.exists_piece (hname text).symm
  exact hparts part hpart text htext

/-- Without `it` and `that` a value means in every scope what it means outside of all sends. -/
lemma Value.Scopeless.interpret {value : Value} (h : value.Scopeless) (scope : Scope) :
    interpret scope value = interpret none value := by
  refine interpret_congr fun text htext => ?_
  rw [Scope.find?_eq_none (h text htext), Scope.find?_eq_none (h text htext)]

/-! ## What the messages mean -/

section Meaning

variable {c c' x y : Value} (hc : interpret none c = some (.ok c')) (hkind : c'.tag ≠ .handler)
  (hx : x.Scopeless)

include hc hkind hx

/-- A choice between two deferred values means what the chosen one means. -/
lemma interpret_choose_later (hy : y.Scopeless) :
    interpret none (.send c "?" (.pair (.later x) (.later y)))
      = interpret none (if c'.isNil then y else x) := by
  have hsides : interpret none (.pair (.later x) (.later y)) = some (.ok (.pair x y)) := by
    rw [interpret_eq, Direct.evaluation, interpret_later, interpret_later]
    rfl
  rw [interpret_send hc hsides, deliver_choose hkind]
  cases c'.isNil with
  | true => exact hy.interpret _
  | false => exact hx.interpret _

lemma interpret_and_later :
    interpret none (.send c "and" (.later x))
      = if c'.isNil then some (.ok .nil) else interpret none x := by
  rw [interpret_send hc (interpret_later none x), deliver_and hkind, hx.interpret]

lemma interpret_or_later :
    interpret none (.send c "or" (.later x))
      = if c'.isNil then interpret none x else some (.ok c') := by
  rw [interpret_send hc (interpret_later none x), deliver_or hkind, hx.interpret]

end Meaning

/-! ## What the messages come to -/

/-- **Deferral is transparent and lazy.**  The subject of a message comes to a value that is no
handler, and neither `it` nor `that` is exposed in what is deferred in its operand.  What the
message has to evaluate it then brings to the outcome that it has by itself, and the rest has no
influence, whatever it would come to. -/
theorem evaluateAtRoot_deferred {c c' x y : Value} {fuel : Nat}
    (hc : evaluateAtRoot fuel c = .ok c') (hkind : c'.tag ≠ .handler) (hx : x.Scopeless)
    (hy : y.Scopeless) :
    (c'.isNil = false →
      SettleAlike
        (fun fuel => evaluateAtRoot fuel (.send c "?" (.pair (.later x) (.later y))))
        (fun fuel => evaluateAtRoot fuel x) ∧
      SettleAlike
        (fun fuel => evaluateAtRoot fuel (.send c "and" (.later x)))
        (fun fuel => evaluateAtRoot fuel x) ∧
      Settles (fun fuel => evaluateAtRoot fuel (.send c "or" (.later x))) (some (.ok c'))) ∧
    (c'.isNil = true →
      SettleAlike
        (fun fuel => evaluateAtRoot fuel (.send c "?" (.pair (.later x) (.later y))))
        (fun fuel => evaluateAtRoot fuel y) ∧
      Settles (fun fuel => evaluateAtRoot fuel (.send c "and" (.later x))) (some (.ok .nil)) ∧
      SettleAlike
        (fun fuel => evaluateAtRoot fuel (.send c "or" (.later x)))
        (fun fuel => evaluateAtRoot fuel x)) := by
  have hmeaning : interpret none c = some (.ok c') := interpret_of_evaluateAtRoot hc
  have hchoose := interpret_choose_later hmeaning hkind hx hy
  have hand := interpret_and_later hmeaning hkind hx
  have hor := interpret_or_later hmeaning hkind hx
  have hsettles : ∀ {value outcome}, interpret none value = outcome →
      Settles (fun fuel => evaluateAtRoot fuel value) outcome := by
    rintro value _ rfl
    simp only [evaluateAtRoot_eq]
    exact settles_send Store.sees_addRoot value
  constructor
  · intro hnil
    simp only [hnil, Bool.false_eq_true, if_false] at hchoose hand hor
    exact ⟨⟨_, hsettles hchoose, hsettles rfl⟩, ⟨_, hsettles hand, hsettles rfl⟩, hsettles hor⟩
  · intro hnil
    simp only [hnil, if_true] at hchoose hand hor
    exact ⟨⟨_, hsettles hchoose, hsettles rfl⟩, hsettles hand, ⟨_, hsettles hor, hsettles rfl⟩⟩

/-- A choice of five on the side for nil comes to five, although the other side never ends. -/
theorem evaluateAtRoot_deferred_endless :
    SettleAlike
      (fun fuel => evaluateAtRoot fuel
        (.send .nil "?" (.pair (.later (deferredOr (.name "that"))) (.later (.integer 5)))))
      (fun fuel => evaluateAtRoot fuel (.integer 5)) := by
  have hnil : evaluateAtRoot 1 .nil = .ok .nil := by cbv
  have hleaf : ∀ {value : Value}, value.exposedParts = [] → (∀ text, value ≠ .name text) →
      value.Scopeless := by
    intro value hparts hname
    exact .of_parts hname (by rw [hparts]; simp)
  have hendless : (deferredOr (.name "that")).Scopeless := by
    refine .of_parts (by simp [deferredOr]) ?_
    simp only [deferredOr, Value.exposedParts, Value.parts, List.forall_mem_cons]
    exact ⟨hleaf rfl (by simp), hleaf rfl (by simp), by simp⟩
  have hfive : (Value.integer 5).Scopeless := hleaf rfl (by simp)
  exact ((evaluateAtRoot_deferred hnil (by decide) hendless hfive).2 rfl).1

end Missive
