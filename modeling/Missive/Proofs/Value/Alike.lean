import Missive.Value.Basic
import Mathlib.Tactic.Lemma

/-!
# Equal values by constructors

`==` decides whether two values are equal.  `Alike` says the same by rules, one for each
constructor, so that proofs can go through equal values side by side: `beq_iff_alike`.
-/

namespace Missive.Value

mutual

/-- Equal values. -/
inductive Alike : Value → Value → Prop
  | nil : Alike nil nil
  | integer (value : Int64) : Alike (integer value) (integer value)
  | float {x y : Float} : (x == y) = true → Alike (float x) (float y)
  | string (value : String) : Alike (string value) (string value)
  | name (text : String) : Alike (name text) (name text)
  | later {a b : Value} : Alike a b → Alike (later a) (later b)
  | block {as bs : List Value} : AlikeItems as bs → Alike (block as) (block bs)
  | array {as bs : List Value} : AlikeItems as bs → Alike (array as) (array bs)
  | map {as bs : List (String × Value)} : AlikeEntries as bs → Alike (map as) (map bs)
  | pair {a b c d : Value} : Alike a b → Alike c d → Alike (pair a c) (pair b d)
  | message (verb : String) {a b : Value} : Alike a b → Alike (message verb a) (message verb b)
  | send (verb : String) {a b c d : Value} : Alike a b → Alike c d →
      Alike (send a verb c) (send b verb d)
  | handler {a b : Handler} : a.same b = true → Alike (handler a) (handler b)

/-- Rows of equal items. -/
inductive AlikeItems : List Value → List Value → Prop
  | nil : AlikeItems [] []
  | cons {a b : Value} {as bs : List Value} : Alike a b → AlikeItems as bs →
      AlikeItems (a :: as) (b :: bs)

/-- Rows of equal entries. -/
inductive AlikeEntries : List (String × Value) → List (String × Value) → Prop
  | nil : AlikeEntries [] []
  | cons (key : String) {a b : Value} {as bs : List (String × Value)} : Alike a b →
      AlikeEntries as bs → AlikeEntries ((key, a) :: as) ((key, b) :: bs)

end

mutual

theorem alike_of_beq : ∀ {a b : Value}, beq a b = true → Alike a b
  | .nil, .nil, _ => .nil
  | .integer a, .integer b, h => by
      obtain rfl : a = b := by simpa [beq] using h
      exact .integer a
  | .float _, .float _, h => .float h
  | .string a, .string b, h => by
      obtain rfl : a = b := by simpa [beq] using h
      exact .string a
  | .name a, .name b, h => by
      obtain rfl : a = b := by simpa [beq] using h
      exact .name a
  | .later _, .later _, h => .later (alike_of_beq h)
  | .block _, .block _, h => .block (alikeItems_of_beqItems h)
  | .array _, .array _, h => .array (alikeItems_of_beqItems h)
  | .map _, .map _, h => .map (alikeEntries_of_beqEntries h)
  | .pair _ _, .pair _ _, h => by
      simp only [beq, Bool.and_eq_true] at h
      exact .pair (alike_of_beq h.1) (alike_of_beq h.2)
  | .message v _, .message w _, h => by
      simp only [beq, Bool.and_eq_true, beq_iff_eq] at h
      obtain ⟨rfl, h⟩ := h
      exact .message v (alike_of_beq h)
  | .send _ v _, .send _ w _, h => by
      simp only [beq, Bool.and_eq_true, beq_iff_eq] at h
      obtain ⟨⟨h, rfl⟩, h'⟩ := h
      exact .send v (alike_of_beq h) (alike_of_beq h')
  | .handler _, .handler _, h => .handler h

theorem alikeItems_of_beqItems : ∀ {as bs : List Value}, beqItems as bs = true → AlikeItems as bs
  | [], [], _ => .nil
  | _ :: _, _ :: _, h => by
      simp only [beqItems, Bool.and_eq_true] at h
      exact .cons (alike_of_beq h.1) (alikeItems_of_beqItems h.2)

theorem alikeEntries_of_beqEntries : ∀ {as bs : List (String × Value)},
    beqEntries as bs = true → AlikeEntries as bs
  | [], [], _ => .nil
  | (k, _) :: _, (l, _) :: _, h => by
      simp only [beqEntries, Bool.and_eq_true, beq_iff_eq] at h
      obtain ⟨⟨rfl, h⟩, h'⟩ := h
      exact .cons k (alike_of_beq h) (alikeEntries_of_beqEntries h')

end

mutual

theorem beq_of_alike : ∀ {a b : Value}, Alike a b → beq a b = true
  | _, _, .nil => rfl
  | _, _, .integer _ | _, _, .string _ | _, _, .name _ => by simp [beq]
  | _, _, .float h => h
  | _, _, .later h => by simp [beq, beq_of_alike h]
  | _, _, .block h | _, _, .array h => by simp [beq, beqItems_of_alikeItems h]
  | _, _, .map h => by simp [beq, beqEntries_of_alikeEntries h]
  | _, _, .pair h h' => by simp [beq, beq_of_alike h, beq_of_alike h']
  | _, _, .message _ h => by simp [beq, beq_of_alike h]
  | _, _, .send _ h h' => by simp [beq, beq_of_alike h, beq_of_alike h']
  | _, _, .handler h => h

theorem beqItems_of_alikeItems : ∀ {as bs : List Value}, AlikeItems as bs → beqItems as bs = true
  | _, _, .nil => rfl
  | _, _, .cons h hs => by simp [beqItems, beq_of_alike h, beqItems_of_alikeItems hs]

theorem beqEntries_of_alikeEntries : ∀ {as bs : List (String × Value)}, AlikeEntries as bs →
    beqEntries as bs = true
  | _, _, .nil => rfl
  | _, _, .cons _ h hs => by simp [beqEntries, beq_of_alike h, beqEntries_of_alikeEntries hs]

end

/-- **Equality is equality by constructors.** -/
theorem beq_iff_alike {a b : Value} : (a == b) = true ↔ Alike a b :=
  ⟨alike_of_beq, beq_of_alike⟩

/-! ## Rows -/

lemma ne_nil_of_alikeItems {as bs : List Value} (h : AlikeItems as bs) (has : as ≠ []) :
    bs ≠ [] := by
  rintro rfl
  cases h
  exact has rfl

/-- Equal rows of entries have the same keys. -/
lemma keys_of_alikeEntries : ∀ {as bs : List (String × Value)}, AlikeEntries as bs →
    as.map Prod.fst = bs.map Prod.fst
  | _, _, .nil => rfl
  | _, _, .cons key _ h => by
      rw [List.map_cons, List.map_cons, keys_of_alikeEntries h]

end Missive.Value
