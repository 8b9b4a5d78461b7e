import Missive.Proofs.Grammar.Basic
import Missive.Proofs.Render.Words
import Missive.Proofs.Value.Alike
import Missive.Proofs.Value.Entries
import Missive.Value.OfExpr

/-!
# How many words a value takes

Parentheses aside, the words of a phrase are those of the value of its expression; only a map may
have fewer entries than are written.  Hence two phrases that together make up the words of two
values divide them in the same place: `append_inj_of_weight`.

* `weight`: the number of words that are no parentheses.
* `weight_of_closed` and the theorems with it: one for each phrase.
-/

namespace Missive

namespace Value

/-! ## Rows -/

lemma wordsItems_cons (item : Value) {items : List Value} (h : items ≠ []) :
    wordsItems (item :: items) = words item ++ ⟨.comma, ","⟩ :: wordsItems items := by
  cases items with
  | nil => exact absurd rfl h
  | cons next items => rw [wordsItems]

lemma wordsEntries_cons (key : String) (value : Value) {entries : List (String × Value)}
    (h : entries ≠ []) :
    wordsEntries ((key, value) :: entries)
      = ⟨.string, Text.quote key⟩ :: ⟨.colon, ":"⟩ ::
        (words value ++ ⟨.comma, ","⟩ :: wordsEntries entries) := by
  cases entries with
  | nil => exact absurd rfl h
  | cons next entries => rw [wordsEntries]

end Value

/-! ## Words that are no parentheses -/

/-- What a word counts for: nothing if it is a parenthesis. -/
def Word.weight (w : Word) : Nat :=
  if w.kind = .openParen ∨ w.kind = .closeParen then 0 else 1

/-- How many words are no parentheses. -/
def weight (ws : List Word) : Nat :=
  (ws.map Word.weight).sum

@[simp] lemma weight_nil : weight [] = 0 := rfl

@[simp] lemma weight_cons (w : Word) (ws : List Word) : weight (w :: ws) = w.weight + weight ws :=
  rfl

@[simp] lemma weight_append (ws us : List Word) : weight (ws ++ us) = weight ws + weight us := by
  simp [weight]

lemma Word.weight_le_one (w : Word) : w.weight ≤ 1 := by
  unfold Word.weight
  split <;> omega

/-- What a word counts for depends on its kind only. -/
lemma weight_of_kind {w : Word} {kind : TokenKind} (text : String) (h : w.kind = kind) :
    w.weight = Word.weight ⟨kind, text⟩ := by
  rw [Word.weight, Word.weight, h]

/-- **Words that weigh no less on both sides of a word that counts are the same.** -/
lemma append_inj_of_weight {ws ws' us us' : List Word} {w w' : Word} (hw : w.weight = 1)
    (hws : weight ws' ≤ weight ws) (hus : weight us' ≤ weight us)
    (heq : ws ++ w :: us = ws' ++ w' :: us') : ws = ws' ∧ w = w' ∧ us = us' := by
  -- If the two words were in different places, the first one would count on the wrong side.
  rcases List.append_eq_append_iff.1 heq with ⟨bs, rfl, hbs⟩ | ⟨bs, rfl, hbs⟩
  · cases bs with
    | nil => simpa using hbs
    | cons b bs =>
        obtain ⟨rfl, rfl⟩ := List.cons_eq_cons.1 hbs
        rw [weight_append, weight_cons] at hws
        omega
  · cases bs with
    | nil => simpa [eq_comm] using hbs
    | cons b bs =>
        obtain ⟨rfl, rfl⟩ := List.cons_eq_cons.1 hbs
        rw [List.append_eq, weight_append, weight_cons] at hus
        omega

namespace Value

mutual

/-- Equal values take the same number of words. -/
theorem weight_of_alike : ∀ {a b : Value}, Alike a b → weight a.words = weight b.words
  | _, _, .nil | _, _, .integer _ | _, _, .string _ | _, _, .name _ => rfl
  | _, _, .float _ | _, _, .handler _ => rfl
  | _, _, .later h => by simp [words, weight_of_alike h]
  | _, _, .block h => by simp [words, weight_of_alikeItems h]
  | _, _, .array h => by simp [words, weight_of_alikeItems h]
  | _, _, .map h => by simp [words, weight_of_alikeEntries h]
  | _, _, .pair h h' => by simp [words, weight_of_alike h, weight_of_alike h']
  | _, _, .message _ h => by simp [words, weight_of_alike h]
  | _, _, .send _ h h' => by simp [words, weight_of_alike h, weight_of_alike h']

theorem weight_of_alikeItems : ∀ {as bs : List Value}, AlikeItems as bs →
    weight (wordsItems as) = weight (wordsItems bs)
  | _, _, .nil => rfl
  | _, _, .cons h .nil => weight_of_alike h
  | _, _, .cons h (.cons h' hs) => by
      simp [wordsItems, weight_of_alike h, weight_of_alikeItems (.cons h' hs)]

theorem weight_of_alikeEntries : ∀ {as bs : List (String × Value)}, AlikeEntries as bs →
    weight (wordsEntries as) = weight (wordsEntries bs)
  | _, _, .nil => rfl
  | _, _, .cons _ h .nil => by
      simp [wordsEntries, Word.weight, weight_of_alike h]
  | _, _, .cons _ h (.cons key' h' hs) => by
      simp [wordsEntries, Word.weight, weight_of_alike h,
        weight_of_alikeEntries (.cons key' h' hs)]

end

/-! ## Sorting takes no words -/

/-- The words of the entries of a map, counted entry by entry: the key, the colon, the value and
the comma behind it. -/
lemma weight_wordsEntries (entries : List (String × Value)) :
    weight (wordsEntries entries)
      = (entries.map fun entry => weight entry.2.words + 3).sum - 1 := by
  induction entries with
  | nil => rfl
  | cons entry entries ih =>
      obtain ⟨key, value⟩ := entry
      cases entries with
      | nil =>
          simp [wordsEntries, Word.weight]
          omega
      | cons next entries =>
          simp only [wordsEntries, weight_cons, weight_append, ih]
          simp [Word.weight]
          omega

/-- Sorted entries take no more words than the entries as they are written. -/
lemma weight_sortEntries_le (entries : List (String × Value)) :
    weight (wordsEntries (sortEntries entries)) ≤ weight (wordsEntries entries) := by
  have hsum := sum_sortEntries_le (fun value => weight value.words + 3) entries
  rw [weight_wordsEntries, weight_wordsEntries]
  omega

end Value

/-! ## Phrases -/

namespace Grammar

open Value

variable {head : PairHead}

lemma weight_of_literal {w : Word} {e : Expr} (h : literal? w = some e) :
    weight (ofExpr e).words ≤ w.weight := by
  rcases literal?_cases h with ⟨hkind, -, rfl⟩ | ⟨hkind, rfl⟩ | ⟨hkind, rfl⟩ | ⟨hkind, rfl⟩ <;>
    simp [ofExpr, words, Word.weight, hkind]

lemma ofItems_ne_nil {ws : List Word} {es : List Expr} (h : Row head ws es) : ofItems es ≠ [] := by
  cases h <;> simp [ofItems]

lemma ofExprEntries_ne_nil {ws : List Word} {es : List (String × Expr)}
    (h : Entries head ws es) : ofExprEntries es ≠ [] := by
  cases h <;> simp [ofExprEntries]

lemma weight_of_isVerb {w : Word} (h : IsVerb w) : w.weight = 1 := by
  rcases h with h | h <;> simp [Word.weight, h]

/-- The word of a verb counts for no more than the verb. -/
lemma weight_verbWord_le {w : Word} (h : IsVerb w) : (verbWord w.text).weight ≤ w.weight := by
  rw [weight_of_isVerb h]
  exact Word.weight_le_one _

mutual

theorem weight_of_closed : ∀ {ws : List Word} {e : Expr}, Closed head ws e →
    weight (ofExpr e).words ≤ weight ws
  | _, _, .nil hl hr => by simp [ofExpr, words, Word.weight]
  | _, _, .paren hl he hr => by
      have hbody := weight_of_sending he
      simp [Word.weight, hl, hr]
      omega
  | _, _, .literal he => weight_of_literal he
  | _, _, .empty bracket hl hr => by
      cases bracket <;>
        simp [ofExpr, ofItems, words, wordsItems, Word.weight, hl, hr, Bracket.opening,
          Bracket.close, Bracket.expr]
  | _, _, .row bracket hl hes hr => by
      have hitems := weight_of_row hes
      cases bracket <;>
        simp [ofExpr, words, Word.weight, hl, hr, Bracket.opening, Bracket.close,
          Bracket.expr] <;> omega
  | _, _, .emptyMap hl hr => by
      simp [ofExpr, ofExprEntries, ofEntries, sortEntries, words, wordsEntries, Word.weight, hl, hr]
  | _, _, @Closed.map _ _ _ _ es hl hes hr => by
      have hentries := weight_of_entries hes
      have hsort := weight_sortEntries_le (ofExprEntries es)
      simp [ofExpr, ofEntries, words, Word.weight, hl, hr]
      omega

theorem weight_of_operand : ∀ {ws : List Word} {e : Expr}, Operand head ws e →
    weight (ofExpr e).words ≤ weight ws
  | _, _, .closed he => weight_of_closed he
  | _, _, .pair hleft hc hright => by
      have hl := weight_of_closed hleft
      have hr := weight_of_operand hright
      simp [ofExpr, words, Word.weight, hc]
      omega
  | _, _, .later ha hbody => by
      have hb := weight_of_operand hbody
      simp [ofExpr, words, Word.weight, ha]
      omega
  | _, _, .message hb hv hobject => by
      have ho := weight_of_operand hobject
      have hverb := weight_verbWord_le hv
      have hb' := weight_of_kind "\\" hb
      simp only [ofExpr, words, weight_cons]
      omega
  | _, _, .laterPair _ ha hbody hc hright => by
      have hb := weight_of_operand hbody
      have hr := weight_of_operand hright
      simp [ofExpr, words, Word.weight, ha, hc]
      omega
  | _, _, .messagePair _ hb hv hobject hc hright => by
      have ho := weight_of_operand hobject
      have hr := weight_of_operand hright
      have hverb := weight_verbWord_le hv
      have hb' := weight_of_kind "\\" hb
      have hc' := weight_of_kind ":" hc
      simp only [ofExpr, words, weight_cons, weight_append]
      omega

theorem weight_of_sending : ∀ {ws : List Word} {e : Expr}, Sending head ws e →
    weight (ofExpr e).words ≤ weight ws
  | _, _, .value he => weight_of_operand he
  | _, _, .send hsubject hv hobject => by
      have hs := weight_of_sending hsubject
      have ho := weight_of_operand hobject
      have hverb := weight_verbWord_le hv
      simp only [ofExpr, words, weight_cons, weight_append]
      omega

theorem weight_of_row : ∀ {ws : List Word} {es : List Expr}, Row head ws es →
    weight (wordsItems (ofItems es)) ≤ weight ws
  | _, _, .one he => weight_of_sending he
  | _, _, .cons he hc hes => by
      have hitem := weight_of_sending he
      have hitems := weight_of_row hes
      rw [ofItems, wordsItems_cons _ (ofItems_ne_nil hes)]
      simp [Word.weight, hc]
      omega

theorem weight_of_entries : ∀ {ws : List Word} {es : List (String × Expr)}, Entries head ws es →
    weight (wordsEntries (ofExprEntries es)) ≤ weight ws
  | _, _, .one hk hc he => by
      have hvalue := weight_of_operand he
      simp [ofExprEntries, wordsEntries, Word.weight, hk, hc]
      omega
  | _, _, .cons hk hc he hs hes => by
      have hvalue := weight_of_operand he
      have hentries := weight_of_entries hes
      rw [ofExprEntries, wordsEntries_cons _ _ (ofExprEntries_ne_nil hes)]
      simp [Word.weight, hk, hc, hs]
      omega

end

end Grammar

end Missive
