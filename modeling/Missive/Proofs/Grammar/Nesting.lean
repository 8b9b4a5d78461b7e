import Missive.Proofs.Grammar.Basic
import Mathlib.Tactic.Lemma

/-!
# Brackets and commas in words

Every phrase closes the brackets that it opens, and outside of its brackets it has no comma.  So two
phrases that begin alike and both end before a comma or a closing bracket are the same:
`Flat.append_inj`.

* `Flat`, `Nested`: words that leave the brackets around them as they are, without or with commas of
  their own.
* `flat_of_closed` and the theorems with it: one for each phrase.
-/

namespace Missive.Grammar

/-- How many brackets are open behind a word, given how many are before it.  There is no answer for
a word that closes a bracket outside or separates what is outside. -/
def nest (depth : Nat) (w : Word) : Option Nat :=
  match w.kind, depth with
  | .openParen, depth | .openBlock, depth | .openMap, depth | .openArray, depth => some (depth + 1)
  | .closeParen, depth + 1 | .closeBlock, depth + 1 | .closeArray, depth + 1 => some depth
  | .closeParen, 0 | .closeBlock, 0 | .closeArray, 0 | .comma, 0 => none
  | _, depth => some depth

/-- Words that close the brackets they open and have no comma outside of these. -/
def Flat (ws : List Word) : Prop :=
  ∀ depth, ws.foldlM nest depth = some depth

/-- Words that close the brackets they open. -/
def Nested (ws : List Word) : Prop :=
  ∀ depth, ws.foldlM nest (depth + 1) = some (depth + 1)

/-- Words that nothing flat goes over: none, or those that begin with a comma or a closing
bracket. -/
def Ends (ws : List Word) : Prop :=
  ∀ w ∈ ws.head?, nest 0 w = none

/-- A word that is neither bracket nor comma. -/
def Atomic (w : Word) : Prop :=
  ∀ depth, nest depth w = some depth

variable {ws us : List Word} {w l r c : Word}

lemma nest_opening (h : w.kind ∈ [.openParen, .openBlock, .openMap, .openArray]) (depth : Nat) :
    nest depth w = some (depth + 1) := by
  simp only [List.mem_cons, List.not_mem_nil, or_false] at h
  rcases h with h | h | h | h <;> simp [nest, h]

lemma nest_closing (h : w.kind ∈ [.closeParen, .closeBlock, .closeArray]) (depth : Nat) :
    nest (depth + 1) w = some depth := by
  simp only [List.mem_cons, List.not_mem_nil, or_false] at h
  rcases h with h | h | h <;> simp [nest, h]

/-- A comma separates what is outside of all brackets, and nothing else. -/
lemma nest_comma (h : w.kind = .comma) (depth : Nat) :
    nest depth w = if depth = 0 then none else some depth := by
  cases depth <;> simp [nest, h]

lemma Atomic.of_kind
    (h : w.kind ∈ [.colon, .at, .backslash, .string, .verb, .name, .number, .float]) :
    Atomic w := by
  intro depth
  simp only [List.mem_cons, List.not_mem_nil, or_false] at h
  rcases h with h | h | h | h | h | h | h | h <;> simp [nest, h]

lemma Atomic.of_isVerb (h : IsVerb w) : Atomic w := by
  rcases h with h | h <;> exact .of_kind (by simp [h])

lemma Atomic.of_literal {e : Expr} (h : literal? w = some e) : Atomic w := by
  rcases literal?_cases h with ⟨hkind, -⟩ | ⟨hkind, -⟩ | ⟨hkind, -⟩ | ⟨hkind, -⟩ <;>
    exact .of_kind (by simp [hkind])

lemma Ends.nil : Ends [] := by
  simp [Ends]

lemma Ends.comma (h : c.kind = .comma) (us : List Word) : Ends (c :: us) := by
  simp [Ends, nest_comma h]

namespace Flat

lemma nil : Flat [] :=
  fun _ => rfl

lemma append (h : Flat ws) (h' : Flat us) : Flat (ws ++ us) := by
  intro depth
  rw [List.foldlM_append, h depth]
  exact h' depth

lemma cons (hw : Atomic w) (h : Flat ws) : Flat (w :: ws) := by
  intro depth
  rw [List.foldlM_cons, hw depth]
  exact h depth

lemma single (hw : Atomic w) : Flat [w] :=
  .cons hw .nil

/-- An entry of a map. -/
lemma entry {k : Word} (hk : k.kind = .string) (hc : c.kind = .colon) (h : Flat ws) :
    Flat (k :: c :: ws) :=
  .cons (.of_kind (by simp [hk])) (.cons (.of_kind (by simp [hc])) h)

lemma nested (h : Flat ws) : Nested ws :=
  fun depth => h (depth + 1)

/-- A parenthesis that is not closed is not flat. -/
lemma not_cons (h : Flat ws) (hl : l.kind = .openParen) : ¬ Flat (l :: ws) := by
  intro h'
  have hopen := h' 0
  simp [nest_opening, hl, h 1] at hopen

/-- **Flat words are cut off in one place only.** -/
theorem append_inj {ws' us' : List Word} (h : Flat ws) (h' : Flat ws') (hus : Ends us)
    (hus' : Ends us') (heq : ws ++ us = ws' ++ us') : ws = ws' ∧ us = us' := by
  -- Whichever of the two is longer goes over the end of the other one.
  have hnil : ∀ {as bs cs : List Word}, Flat as → Flat (as ++ bs) → Ends (bs ++ cs) → bs = [] := by
    intro as bs cs has hbs hcs
    cases bs with
    | nil => rfl
    | cons b bs =>
        have hzero := hbs 0
        rw [List.foldlM_append, has 0] at hzero
        simp [hcs b rfl] at hzero
  rcases List.append_eq_append_iff.1 heq with ⟨bs, rfl, rfl⟩ | ⟨bs, rfl, rfl⟩
  · obtain rfl := hnil h h' hus
    simp
  · obtain rfl := hnil h' h hus'
    simp

end Flat

namespace Nested

lemma append (h : Nested ws) (h' : Nested us) : Nested (ws ++ us) := by
  intro depth
  rw [List.foldlM_append, h depth]
  exact h' depth

lemma comma (hc : c.kind = .comma) : Nested [c] := by
  intro depth
  simp [nest_comma hc]

/-- A bracket around words that close theirs. -/
lemma enclosed (h : Nested ws) (hl : ∀ depth, nest depth l = some (depth + 1))
    (hr : ∀ depth, nest (depth + 1) r = some depth) : Flat (l :: (ws ++ [r])) := by
  intro depth
  rw [List.foldlM_cons, hl depth]
  change (ws ++ [r]).foldlM nest (depth + 1) = some depth
  rw [List.foldlM_append, h depth]
  simp [hr depth]

end Nested

/-! ## Phrases -/

section

variable {l r : Word} {ws : List Word}

lemma Nested.paren (h : Nested ws) (hl : l.kind = .openParen) (hr : r.kind = .closeParen) :
    Flat (l :: (ws ++ [r])) :=
  h.enclosed (nest_opening (by simp [hl])) (nest_closing (by simp [hr]))

lemma Nested.bracket (h : Nested ws) (bracket : Bracket) (hl : l.kind = bracket.opening)
    (hr : r.kind = bracket.close) : Flat (l :: (ws ++ [r])) := by
  refine h.enclosed (nest_opening ?_) (nest_closing ?_)
  · cases bracket <;> simp [hl, Bracket.opening]
  · cases bracket <;> simp [hr, Bracket.close]

lemma Nested.map (h : Nested ws) (hl : l.kind = .openMap) (hr : r.kind = .closeBlock) :
    Flat (l :: (ws ++ [r])) :=
  h.enclosed (nest_opening (by simp [hl])) (nest_closing (by simp [hr]))

end

variable {head : PairHead} {e : Expr}

/-- A phrase has words. -/
lemma ne_nil_of_closed (h : Closed head ws e) : ws ≠ [] := by
  cases h <;> simp

lemma ne_nil_of_operand (h : Operand head ws e) : ws ≠ [] := by
  cases h with
  | closed he => exact ne_nil_of_closed he
  | _ => simp

lemma ne_nil_of_sending (h : Sending head ws e) : ws ≠ [] := by
  cases h with
  | value he => exact ne_nil_of_operand he
  | send _ _ _ => simp

mutual

theorem flat_of_closed : ∀ {ws : List Word} {e : Expr}, Closed head ws e → Flat ws
  | _, _, .nil hl hr => Flat.nil.nested.paren hl hr
  | _, _, .paren hl he hr => (flat_of_sending he).nested.paren hl hr
  | _, _, .literal he => .single (.of_literal he)
  | _, _, .empty bracket hl hr => Flat.nil.nested.bracket bracket hl hr
  | _, _, .row bracket hl hes hr => (nested_of_row hes).bracket bracket hl hr
  | _, _, .emptyMap hl hr => Flat.nil.nested.map hl hr
  | _, _, .map hl hes hr => (nested_of_entries hes).map hl hr

theorem flat_of_operand : ∀ {ws : List Word} {e : Expr}, Operand head ws e → Flat ws
  | _, _, .closed he => flat_of_closed he
  | _, _, .pair hleft hc hright =>
      (flat_of_closed hleft).append (.cons (.of_kind (by simp [hc])) (flat_of_operand hright))
  | _, _, .later ha hbody => .cons (.of_kind (by simp [ha])) (flat_of_operand hbody)
  | _, _, .message hb hv hobject =>
      .cons (.of_kind (by simp [hb])) (.cons (.of_isVerb hv) (flat_of_operand hobject))
  | _, _, .laterPair _ ha hbody hc hright =>
      .append (.cons (.of_kind (by simp [ha])) (flat_of_operand hbody))
        (.cons (.of_kind (by simp [hc])) (flat_of_operand hright))
  | _, _, .messagePair _ hb hv hobject hc hright =>
      .append (.cons (.of_kind (by simp [hb])) (.cons (.of_isVerb hv) (flat_of_operand hobject)))
        (.cons (.of_kind (by simp [hc])) (flat_of_operand hright))

theorem flat_of_sending : ∀ {ws : List Word} {e : Expr}, Sending head ws e → Flat ws
  | _, _, .value he => flat_of_operand he
  | _, _, .send hsubject hv hobject =>
      (flat_of_sending hsubject).append (.cons (.of_isVerb hv) (flat_of_operand hobject))

theorem nested_of_row : ∀ {ws : List Word} {es : List Expr}, Row head ws es → Nested ws
  | _, _, .one he => (flat_of_sending he).nested
  | _, _, .cons he hc hes =>
      (flat_of_sending he).nested.append ((Nested.comma hc).append (nested_of_row hes))

theorem nested_of_entries : ∀ {ws : List Word} {es : List (String × Expr)},
    Entries head ws es → Nested ws
  | _, _, .one hk hc he => (Flat.entry hk hc (flat_of_operand he)).nested
  | _, _, .cons hk hc he hs hes =>
      (Flat.entry hk hc (flat_of_operand he)).nested.append
        ((Nested.comma hs).append (nested_of_entries hes))

end

end Missive.Grammar
