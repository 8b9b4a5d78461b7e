import Missive.Value.Basic
import Mathlib.Tactic.Lemma

/-!
# The parts of values

A value consists of other values, and of these it evaluates some and leaves others alone: the body
of a deferred value is handed out as it is.

* `Value.Occurs`: a value occurs anywhere in another one, deferred bodies included.
* `Value.Exposed`: a value occurs in another one outside of every deferred body.
-/

namespace Missive.Value

/-- The values that a value directly consists of. -/
@[simp] def parts : Value → List Value
  | later body => [body]
  | block items | array items => items
  | map entries => entries.map Prod.snd
  | pair left right => [left, right]
  | message _ object => [object]
  | send subject _ object => [subject, object]
  | _ => []

/-- The parts that are evaluated where the value is: all but the body of a deferred value. -/
@[simp] def exposedParts : Value → List Value
  | later _ => []
  | value => value.parts

/-- Being a value or a part of one of the pieces that it is split into. -/
inductive PartOf (split : Value → List Value) (part : Value) : Value → Prop
  | self : PartOf split part part
  | inside {piece whole : Value} :
      piece ∈ split whole → PartOf split part piece → PartOf split part whole

/-- A value occurs anywhere in another one. -/
abbrev Occurs : Value → Value → Prop :=
  PartOf parts

/-- A value occurs in another one outside of every deferred body. -/
abbrev Exposed : Value → Value → Prop :=
  PartOf exposedParts

/-- What occurs in a value other than itself occurs in one of its pieces. -/
lemma PartOf.exists_piece {split : Value → List Value} {part whole : Value}
    (h : PartOf split part whole) (hne : part ≠ whole) :
    ∃ piece ∈ split whole, PartOf split part piece := by
  cases h with
  | self => exact absurd rfl hne
  | inside hpiece hpart => exact ⟨_, hpiece, hpart⟩

lemma PartOf.trans {split : Value → List Value} {part middle whole : Value}
    (h : PartOf split part middle) (h' : PartOf split middle whole) : PartOf split part whole := by
  induction h' with
  | self => exact h
  | inside hpiece _ ih => exact .inside hpiece ih

/-- Nothing else occurs in a value without pieces. -/
lemma not_partOf_leaf {split : Value → List Value} {part leaf : Value} (hleaf : split leaf = [])
    (hne : part ≠ leaf) : ¬ PartOf split part leaf := by
  intro h
  obtain ⟨piece, hpiece, -⟩ := h.exists_piece hne
  rw [hleaf] at hpiece
  exact List.not_mem_nil hpiece

lemma mem_parts_of_mem_exposedParts {part value : Value} (h : part ∈ value.exposedParts) :
    part ∈ value.parts := by
  cases value with
  | later body => cases h
  | _ => exact h

lemma Exposed.occurs {part whole : Value} (h : Exposed part whole) : Occurs part whole := by
  induction h with
  | self => exact .self
  | inside hpiece _ ih => exact .inside (mem_parts_of_mem_exposedParts hpiece) ih

/-- Something holds of everything that occurs in a value, the value included. -/
def Everywhere (p : Value → Prop) (value : Value) : Prop :=
  ∀ node, Occurs node value → p node

lemma everywhere_iff {p : Value → Prop} {value : Value} :
    value.Everywhere p ↔ p value ∧ ∀ part ∈ value.parts, part.Everywhere p := by
  constructor
  · intro h
    exact ⟨h value .self, fun part hpart node hnode => h node (.inside hpart hnode)⟩
  · rintro ⟨hself, hparts⟩ node hnode
    cases hnode with
    | self => exact hself
    | inside hpart hnode => exact hparts _ hpart node hnode

/-- Nothing but nil is exposed in nil. -/
lemma not_exposed_nil {name : String} : ¬ Exposed (.name name) nil :=
  not_partOf_leaf rfl (by simp)

end Missive.Value
