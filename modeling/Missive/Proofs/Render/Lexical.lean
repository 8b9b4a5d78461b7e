import Missive.Proofs.Grammar.Lexical
import Missive.Proofs.Value.Alike
import Missive.Proofs.Value.KeyOrder

/-!
# Values of expressions that were read

The value of a lexical expression is lexical, and so is every equal value.

* `lexical_ofExpr`, `lexical_of_sending`: the values of expressions.
* `lexical_of_alike`: equal values.
-/

namespace Missive

open Grammar

namespace Value

/-! ## Values of expressions -/

/-- The value of a lexical expression is lexical. -/
lemma lexical_ofExpr {e : Expr} (h : e.Lexical) : (ofExpr e).Lexical := by
  induction e using Expr.induction_parts with
  | step e ih =>
      replace ih := fun part hpart => ih part hpart (h.part hpart)
      cases e with
      | nil => exact .nil
      | int value => exact .integer h.self
      | float value => exact .float value
      | string value => exact .string value
      | name text => exact .name h.self
      | later body => exact .later (ih body (by simp))
      | block items =>
          refine .block ?_
          rw [ofItems_eq_map, List.forall_mem_map]
          exact ih
      | array items =>
          refine .array ?_
          rw [ofItems_eq_map, List.forall_mem_map]
          exact ih
      | map entries =>
          refine .map fun entry hentry => ?_
          have hwritten := mem_of_mem_sortEntries hentry
          rw [ofExprEntries_eq_map] at hwritten
          obtain ⟨written, hmem, rfl⟩ := List.mem_map.1 hwritten
          exact ih written.2 (List.mem_map_of_mem hmem)
      | pair left right => exact .pair (ih left (by simp)) (ih right (by simp))
      | message verb object => exact .message h.self (ih object (by simp))
      | send subject verb object =>
          exact .send (ih subject (by simp)) h.self (ih object (by simp))

/-- The value of an expression that words derive is lexical. -/
lemma lexical_of_sending {head : PairHead} {ws : List Word} {e : Expr} (hws : GoodWords ws)
    (h : Sending head ws e) : (ofExpr e).Lexical :=
  lexical_ofExpr (Expr.lexical_of_sending hws h)

/-! ## Equal values -/

mutual

/-- What equals a lexical value is lexical. -/
theorem lexical_of_alike : ∀ {a b : Value}, Alike a b → a.Lexical → b.Lexical
  | _, _, .nil, h | _, _, .integer _, h | _, _, .string _, h | _, _, .name _, h => h
  | _, _, .float _, _ => .float _
  | _, _, .later h, ha => by
      cases ha with
      | later ha => exact .later (lexical_of_alike h ha)
  | _, _, .block h, ha => by
      cases ha with
      | block ha => exact .block (lexical_of_alikeItems h ha)
  | _, _, .array h, ha => by
      cases ha with
      | array ha => exact .array (lexical_of_alikeItems h ha)
  | _, _, .map h, ha => by
      cases ha with
      | map ha => exact .map (lexical_of_alikeEntries h ha)
  | _, _, .pair h h', ha => by
      cases ha with
      | pair ha ha' => exact .pair (lexical_of_alike h ha) (lexical_of_alike h' ha')
  | _, _, .message _ h, ha => by
      cases ha with
      | message hverb ha => exact .message hverb (lexical_of_alike h ha)
  | _, _, .send _ h h', ha => by
      cases ha with
      | send ha hverb ha' => exact .send (lexical_of_alike h ha) hverb (lexical_of_alike h' ha')
  | _, _, .handler _, ha => nomatch ha

theorem lexical_of_alikeItems : ∀ {as bs : List Value}, AlikeItems as bs →
    (∀ a ∈ as, a.Lexical) → ∀ b ∈ bs, b.Lexical
  | _, _, .nil, h => h
  | _, _, .cons h hs, has => by
      rw [List.forall_mem_cons] at has ⊢
      exact ⟨lexical_of_alike h has.1, lexical_of_alikeItems hs has.2⟩

theorem lexical_of_alikeEntries : ∀ {as bs : List (String × Value)}, AlikeEntries as bs →
    (∀ a ∈ as, a.2.Lexical) → ∀ b ∈ bs, b.2.Lexical
  | _, _, .nil, h => h
  | _, _, .cons _ h hs, has => by
      rw [List.forall_mem_cons] at has ⊢
      exact ⟨lexical_of_alike h has.1, lexical_of_alikeEntries hs has.2⟩

end

end Value

end Missive
