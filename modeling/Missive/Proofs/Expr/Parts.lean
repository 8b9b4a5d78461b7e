import Missive.Expr.Basic
import Mathlib.Tactic.Lemma

/-!
# The parts of expressions

* `Expr.parts`: the expressions that an expression directly consists of.
* `Expr.Everywhere`: something holds of an expression and of everything in it.
* `Expr.induction_parts`: what holds of an expression as soon as it holds of its parts.
* `Expr.beq_iff_eq_of_floatFree`: without floating-point constants, equal trees are one tree.
-/

namespace Missive.Expr

/-- The expressions that an expression directly consists of. -/
@[simp] def parts : Expr → List Expr
  | later body => [body]
  | block items | array items => items
  | map entries => entries.map Prod.snd
  | pair left right => [left, right]
  | message _ object => [object]
  | send subject _ object => [subject, object]
  | _ => []

/-- An expression is another one or occurs in it. -/
inductive Occurs (part : Expr) : Expr → Prop
  | self : Occurs part part
  | inside {piece whole : Expr} : piece ∈ whole.parts → Occurs part piece → Occurs part whole

/-- Something holds of everything that occurs in an expression, the expression included. -/
def Everywhere (p : Expr → Prop) (e : Expr) : Prop :=
  ∀ node, Occurs node e → p node

section

variable {p : Expr → Prop} {e : Expr}

lemma everywhere_iff : e.Everywhere p ↔ p e ∧ ∀ part ∈ e.parts, part.Everywhere p := by
  constructor
  · intro h
    exact ⟨h e .self, fun part hpart node hnode => h node (.inside hpart hnode)⟩
  · rintro ⟨hself, hparts⟩ node hnode
    cases hnode with
    | self => exact hself
    | inside hpart hnode => exact hparts _ hpart node hnode

lemma Everywhere.self (h : e.Everywhere p) : p e :=
  h e .self

lemma Everywhere.part (h : e.Everywhere p) {part : Expr} (hpart : part ∈ e.parts) :
    part.Everywhere p :=
  (everywhere_iff.1 h).2 part hpart

end

lemma sizeOf_lt_of_mem_parts {part e : Expr} (h : part ∈ e.parts) : sizeOf part < sizeOf e := by
  cases e with
  | block items | array items =>
      have hlt : sizeOf part < sizeOf items := List.sizeOf_lt_of_mem h
      simp only [block.sizeOf_spec, array.sizeOf_spec]
      omega
  | map entries =>
      obtain ⟨⟨key, value⟩, hentry, rfl⟩ := List.mem_map.1 h
      have hlt := List.sizeOf_lt_of_mem hentry
      simp only [map.sizeOf_spec, Prod.mk.sizeOf_spec] at hlt ⊢
      omega
  | later | pair | message | send =>
      simp only [parts, List.mem_cons, List.not_mem_nil, or_false] at h
      rcases h with rfl | rfl <;> simp <;> omega
  | _ => cases h

/-- What holds of an expression as soon as it holds of its parts holds of all expressions. -/
@[elab_as_elim]
lemma induction_parts {P : Expr → Prop} (step : ∀ e, (∀ part ∈ e.parts, P part) → P e) (e : Expr) :
    P e :=
  step e fun part _ => induction_parts step part
termination_by sizeOf e
decreasing_by exact sizeOf_lt_of_mem_parts ‹_›

/-! ## Expressions without floating-point constants -/

/-- There is no floating-point constant in the expression. -/
def FloatFree (e : Expr) : Prop :=
  e.Everywhere fun node => ∀ x, node ≠ float x

lemma FloatFree.of_parts {e : Expr} (hself : ∀ x, e ≠ float x)
    (hparts : ∀ part ∈ e.parts, part.FloatFree) : e.FloatFree :=
  everywhere_iff.2 ⟨hself, hparts⟩

lemma beqItems_iff_eq : ∀ {items items' : List Expr},
    (∀ item ∈ items, ∀ e, beq item e = true ↔ item = e) →
    (beqItems items items' = true ↔ items = items')
  | [], [], _ => by simp [beqItems]
  | [], _ :: _, _ | _ :: _, [], _ => by simp [beqItems]
  | item :: items, item' :: items', h => by
      obtain ⟨hitem, hitems⟩ := List.forall_mem_cons.1 h
      rw [beqItems, Bool.and_eq_true, hitem, beqItems_iff_eq hitems, List.cons.injEq]

lemma beqEntries_iff_eq : ∀ {entries entries' : List (String × Expr)},
    (∀ entry ∈ entries, ∀ e, beq entry.2 e = true ↔ entry.2 = e) →
    (beqEntries entries entries' = true ↔ entries = entries')
  | [], [], _ => by simp [beqEntries]
  | [], _ :: _, _ | _ :: _, [], _ => by simp [beqEntries]
  | (key, value) :: entries, (key', value') :: entries', h => by
      obtain ⟨hvalue, hentries⟩ := List.forall_mem_cons.1 h
      rw [beqEntries, Bool.and_eq_true, Bool.and_eq_true, beq_iff_eq, hvalue,
        beqEntries_iff_eq hentries, List.cons.injEq, Prod.mk.injEq]

/-- **Equal trees without floating-point constants** are one and the same. -/
theorem beq_iff_eq_of_floatFree {e : Expr} (h : e.FloatFree) (e' : Expr) :
    (e == e') = true ↔ e = e' := by
  change beq e e' = true ↔ e = e'
  induction e using induction_parts generalizing e' with
  | step e ih =>
      replace ih := fun part hpart => ih part hpart (h.part hpart)
      cases e with
      | float x => exact absurd rfl (h.self x)
      | block items =>
          cases e' with
          | block items' => simpa [beq] using beqItems_iff_eq ih
          | _ => simp [beq]
      | array items =>
          cases e' with
          | array items' => simpa [beq] using beqItems_iff_eq ih
          | _ => simp [beq]
      | map entries =>
          have hentries : ∀ entry ∈ entries, ∀ e, beq entry.2 e = true ↔ entry.2 = e :=
            fun entry hentry => ih entry.2 (List.mem_map_of_mem hentry)
          cases e' with
          | map entries' => simpa [beq] using beqEntries_iff_eq hentries
          | _ => simp [beq]
      | later | pair | message | send =>
          simp only [parts, List.forall_mem_cons] at ih
          cases e' <;> simp [beq, ih, and_assoc]
      | _ => cases e' <;> simp [beq]

end Missive.Expr
