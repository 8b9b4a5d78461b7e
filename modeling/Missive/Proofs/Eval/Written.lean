import Missive.Proofs.Eval.Closure
import Missive.Proofs.Value.Entries
import Missive.Proofs.Value.Nodes
import Missive.Value.OfExpr
import Mathlib.Tactic.SplitIfs

/-!
# Values that programs are written as

A program text makes no handlers, and no program makes any.  `Value.Written` says so of a value, and
also which names may occur in it.

* `written_ofExpr`: the value of an expression is written with the names of the expression.
* `interpret_congr`: scopes with the same exposed names give a value the same meaning.
* `interpret_scope`: without `it` and `that` a value means the same in every scope.
* `unhandled_interpret`: what a value without handlers comes to has none.
-/

namespace Missive

open Value (Exposed)

namespace Expr

mutual

/-- The names that an expression looks up. -/
def names : Expr → List String
  | nil | int _ | float _ | string _ => []
  | name text => [text]
  | later body => names body
  | block items => namesItems items
  | array items => namesItems items
  | map entries => namesEntries entries
  | pair left right => names left ++ names right
  | message _ object => names object
  | send subject _ object => names subject ++ names object
termination_by structural e => e

/-- The names in a row of items. -/
def namesItems : List Expr → List String
  | [] => []
  | item :: items => names item ++ namesItems items
termination_by structural es => es

/-- The names in a row of map entries. -/
def namesEntries : List (String × Expr) → List String
  | [] => []
  | (_, value) :: entries => names value ++ namesEntries entries
termination_by structural es => es

end

end Expr

namespace Value

/-- A value without handlers in which all names are allowed ones. -/
inductive Written (allowed : String → Prop) : Value → Prop
  | nil : Written allowed nil
  | integer (value : Int64) : Written allowed (integer value)
  | float (value : Float) : Written allowed (float value)
  | string (value : String) : Written allowed (string value)
  | name {text : String} : allowed text → Written allowed (name text)
  | later {body : Value} : Written allowed body → Written allowed (later body)
  | block {items : List Value} : (∀ item ∈ items, Written allowed item) →
      Written allowed (block items)
  | array {items : List Value} : (∀ item ∈ items, Written allowed item) →
      Written allowed (array items)
  | map {entries : List (String × Value)} : (∀ entry ∈ entries, Written allowed entry.2) →
      Written allowed (map entries)
  | pair {left right : Value} : Written allowed left → Written allowed right →
      Written allowed (pair left right)
  | message (verb : String) {object : Value} : Written allowed object →
      Written allowed (message verb object)
  | send {subject object : Value} (verb : String) : Written allowed subject →
      Written allowed object → Written allowed (send subject verb object)

/-- The parts of such a value are such values. -/
lemma Written.part {allowed : String → Prop} {part value : Value} (h : value.Written allowed)
    (hpart : part ∈ value.parts) : part.Written allowed := by
  cases h with
  | nil | integer _ | float _ | string _ | name _ => cases hpart
  | later hbody =>
      obtain rfl : part = _ := by simpa using hpart
      exact hbody
  | block hitems | array hitems => exact hitems part hpart
  | map hentries =>
      obtain ⟨entry, hentry, rfl⟩ := List.mem_map.1 hpart
      exact hentries entry hentry
  | pair hleft hright =>
      obtain rfl | rfl : part = _ ∨ part = _ := by simpa using hpart
      · exact hleft
      · exact hright
  | message _ hobject =>
      obtain rfl : part = _ := by simpa using hpart
      exact hobject
  | send _ hsubject hobject =>
      obtain rfl | rfl : part = _ ∨ part = _ := by simpa using hpart
      · exact hsubject
      · exact hobject

lemma Written.of_occurs {allowed : String → Prop} {part value : Value} (h : value.Written allowed)
    (hpart : Occurs part value) : part.Written allowed := by
  induction hpart with
  | self => exact h
  | inside hpiece _ ih => exact ih (h.part hpiece)

/-! ## From expressions -/

mutual

/-- The value of an expression has no handlers, and its names are those of the expression. -/
theorem written_ofExpr {allowed : String → Prop} : ∀ {e : Expr},
    (∀ text ∈ e.names, allowed text) → (ofExpr e).Written allowed
  | .nil, _ => .nil
  | .int value, _ => .integer value
  | .float value, _ => .float value
  | .string value, _ => .string value
  | .name text, h => .name (h text List.mem_cons_self)
  | .later body, h => .later (written_ofExpr h)
  | .block items, h => .block (written_ofItems h)
  | .array items, h => .array (written_ofItems h)
  | .map entries, h => .map fun entry hentry =>
      written_ofExprEntries h entry (mem_of_mem_sortEntries hentry)
  | .pair left right, h => by
      simp only [Expr.names, List.mem_append] at h
      exact .pair (written_ofExpr fun text ht => h text (.inl ht))
        (written_ofExpr fun text ht => h text (.inr ht))
  | .message verb object, h => .message verb (written_ofExpr h)
  | .send subject verb object, h => by
      simp only [Expr.names, List.mem_append] at h
      exact .send verb (written_ofExpr fun text ht => h text (.inl ht))
        (written_ofExpr fun text ht => h text (.inr ht))

theorem written_ofItems {allowed : String → Prop} : ∀ {items : List Expr},
    (∀ text ∈ Expr.namesItems items, allowed text) →
    ∀ item ∈ ofItems items, item.Written allowed
  | [], _ => by simp [ofItems]
  | item :: items, h => by
      simp only [Expr.namesItems, List.mem_append] at h
      rw [ofItems, List.forall_mem_cons]
      exact ⟨written_ofExpr fun text ht => h text (.inl ht),
        written_ofItems fun text ht => h text (.inr ht)⟩

theorem written_ofExprEntries {allowed : String → Prop} : ∀ {entries : List (String × Expr)},
    (∀ text ∈ Expr.namesEntries entries, allowed text) →
    ∀ entry ∈ ofExprEntries entries, entry.2.Written allowed
  | [], _ => by simp [ofExprEntries]
  | (key, value) :: entries, h => by
      simp only [Expr.namesEntries, List.mem_append] at h
      rw [ofExprEntries, List.forall_mem_cons]
      exact ⟨written_ofExpr fun text ht => h text (.inl ht),
        written_ofExprEntries fun text ht => h text (.inr ht)⟩

end

end Value

/-! ## Scopes -/

/-- Items with the same answers are run alike. -/
lemma foldlM_congr {α : Type} {f g : α → Option (Except EvalError Value)} {items : List α}
    (h : ∀ item ∈ items, f item = g item) (last : Value) :
    items.foldlM (m := AnswerM) (fun _ item => f item) last
      = items.foldlM (m := AnswerM) (fun _ item => g item) last := by
  induction items generalizing last with
  | nil => rfl
  | cons item items ih =>
      rw [List.foldlM_cons, List.foldlM_cons, h item List.mem_cons_self]
      refine congrArg _ (funext fun value => ?_)
      exact ih (fun item hitem => h item (List.mem_cons_of_mem _ hitem)) value

/-- Items with the same answers are evaluated alike. -/
lemma mapM_congr {α β : Type} {f g : α → Option (Except EvalError β)} {items : List α}
    (h : ∀ item ∈ items, f item = g item) :
    items.mapM (m := AnswerM) f = items.mapM (m := AnswerM) g := by
  induction items with
  | nil => rfl
  | cons item items ih =>
      rw [List.mapM_cons, List.mapM_cons, h item List.mem_cons_self,
        ih fun item hitem => h item (List.mem_cons_of_mem _ hitem)]

/-- **What a value means depends on its exposed names only.**  A scope matters to no other name: a
body that is deferred is handed out as it is, and what a message evaluates again it evaluates in a
scope of its own. -/
lemma interpret_congr {value : Value} {scope scope' : Scope}
    (h : ∀ text, Exposed (.name text) value → scope.find? text = scope'.find? text) :
    interpret scope value = interpret scope' value := by
  induction value using Value.induction_parts with
  | step value ih =>
      have hpart : ∀ part ∈ value.exposedParts, interpret scope part = interpret scope' part := by
        intro part hpart
        exact ih part (Value.mem_parts_of_mem_exposedParts hpart) fun text htext =>
          h text (.inside hpart htext)
      rw [interpret_eq, interpret_eq]
      cases value with
      | nil | integer _ | float _ | string _ | later _ | handler _ => rfl
      | name text => simp only [Direct.evaluation, h text .self]
      | block items => exact foldlM_congr hpart .nil
      | array items =>
          have hitem : ∀ item ∈ items, interpret scope item = interpret scope' item := hpart
          rw [Direct.evaluation, Direct.evaluation, mapM_congr hitem]
      | map entries =>
          have hentry : ∀ entry ∈ entries, interpret scope entry.2 = interpret scope' entry.2 :=
            fun entry hentry => hpart entry.2 (List.mem_map_of_mem hentry)
          rw [Direct.evaluation, Direct.evaluation,
            mapM_congr fun entry hmem => by rw [hentry entry hmem]]
      | pair left right =>
          rw [Direct.evaluation, Direct.evaluation, hpart left (by simp), hpart right (by simp)]
      | message verb object => rw [Direct.evaluation, Direct.evaluation, hpart object (by simp)]
      | send subject verb object =>
          rw [Direct.evaluation, Direct.evaluation, hpart subject (by simp), hpart object (by simp)]

/-- A scope binds `it` and `that` only. -/
lemma Scope.find?_eq_none {text : String} (h : text ≠ "it" ∧ text ≠ "that") (scope : Scope) :
    scope.find? text = none := by
  cases scope <;> simp [Scope.find?, h]

/-- **Scopes matter to `it` and `that` only.** -/
theorem interpret_scope {value : Value}
    (h : value.Written fun text => text ≠ "it" ∧ text ≠ "that") (scope : Scope) :
    interpret scope value = interpret none value := by
  refine interpret_congr fun text htext => ?_
  cases h.of_occurs htext.occurs with
  | name hname => rw [Scope.find?_eq_none hname, Scope.find?_eq_none hname]

/-! ## What written values come to -/

/-- A value without handlers. -/
abbrev Value.Unhandled (value : Value) : Prop :=
  value.Written fun _ => True

/-- A scope without handlers. -/
def Scope.Unhandled : Scope → Prop
  | none => True
  | some (it, that) => it.Unhandled ∧ that.Unhandled

lemma Scope.Unhandled.find? {scope : Scope} {text : String} {bound : Value}
    (h : scope.Unhandled) (hbound : scope.find? text = some bound) : bound.Unhandled := by
  match scope, h with
  | some (it, that), h =>
      simp only [Scope.find?] at hbound
      split_ifs at hbound
      · cases hbound
        exact h.1
      · cases hbound
        exact h.2

/-- The values without handlers. -/
def Closure.unhandled : Closure where
  Source := Value.Unhandled
  Answer := Value.Unhandled
  source := id
  part h hpart := h.part (Value.mem_parts_of_mem_exposedParts hpart)
  body h := h.part (by simp)
  datum h := by
    cases h with
    | nil => exact .nil
    | integer value => exact .integer value
    | float value => exact .float value
    | string value => exact .string value
  array := .array
  map _ _ hresults := .map hresults
  pair := .pair
  message _ hresult := .message _ hresult
  entry h hvalue := h.part hvalue

/-- **No program makes a handler.** -/
theorem unhandled_interpret {scope : Scope} {value : Value} {result : Except EvalError Value}
    (h : interpret scope value = some result) (hscope : scope.Unhandled)
    (hvalue : value.Unhandled) : Answers (some result) Value.Unhandled :=
  Closure.unhandled.interpret h (fun _ _ => hscope.find?) hvalue

end Missive
