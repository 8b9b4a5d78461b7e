import Missive.Proofs.Grammar.Parsing
import Missive.Proofs.Token.Literals
import Mathlib

/-!
# The strings of a program

The strings and keys of an expression are what the literals of its text stand for, one for each
literal and in the order in which they are written.  As a literal can be told from what it stands
for, no two literals that are written differently ever become one string or one key.

* `Expr.texts`: the strings and keys of an expression from left to right.
* `Expr.texts_of_closed` and the theorems with it: one for each phrase.
* `literals_distinct`: which texts have literals, and that these never collide.
-/

namespace Missive

open Text Grammar

/-- The texts of the strings among words. -/
def Word.literals (ws : List Word) : List String :=
  (ws.filter fun w => w.kind = .string).map Word.text

/-- The texts of the strings among the tokens of a text. -/
def Tokens.literals (tokens : Tokens) : List String :=
  Word.literals (tokens.items.map Token.word)

namespace Word

variable {w : Word} {ws us : List Word}

lemma literals_append : literals (ws ++ us) = literals ws ++ literals us := by
  simp [literals]

lemma literals_cons (h : w.kind = .string) : literals (w :: ws) = w.text :: literals ws := by
  simp [literals, h]

lemma literals_cons_of_ne (h : w.kind ≠ .string) : literals (w :: ws) = literals ws := by
  simp [literals, h]

end Word

namespace Expr

mutual

/-- The strings and keys of an expression from left to right. -/
def texts : Expr → List String
  | nil => []
  | int _ => []
  | float _ => []
  | string value => [value]
  | name _ => []
  | later body => texts body
  | block items => textsItems items
  | array items => textsItems items
  | map entries => textsEntries entries
  | pair left right => texts left ++ texts right
  | message _ object => texts object
  | send subject _ object => texts subject ++ texts object
termination_by structural e => e

/-- The strings and keys of the items of a block or an array. -/
def textsItems : List Expr → List String
  | [] => []
  | item :: items => texts item ++ textsItems items
termination_by structural es => es

/-- The strings and keys of the entries of a map, each key before what is in its value. -/
def textsEntries : List (String × Expr) → List String
  | [] => []
  | (key, value) :: entries => key :: (texts value ++ textsEntries entries)
termination_by structural es => es

end

/-! ## Phrases -/

/-- What the literals among words stand for. -/
def denoted (ws : List Word) : List String :=
  (Word.literals ws).map unquote

section

variable {w : Word} {ws us : List Word}

lemma denoted_append : denoted (ws ++ us) = denoted ws ++ denoted us := by
  rw [denoted, Word.literals_append, List.map_append, denoted, denoted]

lemma denoted_cons (h : w.kind = .string) : denoted (w :: ws) = unquote w.text :: denoted ws := by
  rw [denoted, Word.literals_cons h, List.map_cons, denoted]

lemma denoted_cons_of_ne (h : w.kind ≠ .string) : denoted (w :: ws) = denoted ws := by
  rw [denoted, Word.literals_cons_of_ne h, denoted]

/-- Words between two that are no strings. -/
lemma denoted_enclosed {l r : Word} (hl : l.kind ≠ .string) (hr : r.kind ≠ .string)
    (ws : List Word) : denoted (l :: (ws ++ [r])) = denoted ws := by
  rw [denoted_cons_of_ne hl, denoted_append, denoted_cons_of_ne hr]
  exact List.append_nil _

/-- A word between two texts that is no string. -/
lemma denoted_between (h : w.kind ≠ .string) :
    denoted (ws ++ w :: us) = denoted ws ++ denoted us := by
  rw [denoted_append, denoted_cons_of_ne h]

lemma kind_ne_string_of_isVerb (h : IsVerb w) : w.kind ≠ .string := by
  rcases h with h | h <;> simp [h]

lemma texts_of_literal {e : Expr} (h : literal? w = some e) : e.texts = denoted [w] := by
  rcases literal?_cases h with ⟨hkind, -, rfl⟩ | ⟨hkind, rfl⟩ | ⟨hkind, rfl⟩ | ⟨hkind, rfl⟩
  · rw [denoted_cons_of_ne (by simp [hkind])]
    rfl
  · rw [denoted_cons_of_ne (by simp [hkind])]
    rfl
  · rw [denoted_cons hkind]
    rfl
  · rw [denoted_cons_of_ne (by simp [hkind])]
    rfl

lemma kind_ne_string_of_bracket {bracket : Bracket} {l r : Word} (hl : l.kind = bracket.opening)
    (hr : r.kind = bracket.close) : l.kind ≠ .string ∧ r.kind ≠ .string := by
  cases bracket <;> simp [hl, hr, Bracket.opening, Bracket.close]

end

variable {head : PairHead}

mutual

theorem texts_of_closed : ∀ {ws : List Word} {e : Expr}, Closed head ws e → e.texts = denoted ws
  | _, _, .nil hl hr => (denoted_enclosed (by simp [hl]) (by simp [hr]) []).symm
  | _, _, .paren hl he hr => by
      rw [denoted_enclosed (by simp [hl]) (by simp [hr]), texts_of_sending he]
  | _, _, .literal he => texts_of_literal he
  | _, _, .empty bracket hl hr => by
      obtain ⟨hl', hr'⟩ := kind_ne_string_of_bracket hl hr
      have hnothing := denoted_enclosed hl' hr' []
      cases bracket <;> exact hnothing.symm
  | _, _, .row bracket hl hes hr => by
      obtain ⟨hl', hr'⟩ := kind_ne_string_of_bracket hl hr
      rw [denoted_enclosed hl' hr', ← texts_of_row hes]
      cases bracket <;> rfl
  | _, _, .emptyMap hl hr => (denoted_enclosed (by simp [hl]) (by simp [hr]) []).symm
  | _, _, .map hl hes hr => by
      rw [denoted_enclosed (by simp [hl]) (by simp [hr]), texts, texts_of_entries hes]

theorem texts_of_operand : ∀ {ws : List Word} {e : Expr}, Operand head ws e → e.texts = denoted ws
  | _, _, .closed he => texts_of_closed he
  | _, _, .pair hleft hc hright => by
      rw [denoted_between (by simp [hc]), texts, texts_of_closed hleft, texts_of_operand hright]
  | _, _, .later ha hbody => by
      rw [denoted_cons_of_ne (by simp [ha]), texts, texts_of_operand hbody]
  | _, _, .message hb hv hobject => by
      rw [denoted_cons_of_ne (by simp [hb]), denoted_cons_of_ne (kind_ne_string_of_isVerb hv),
        texts, texts_of_operand hobject]
  | _, _, .laterPair _ ha hbody hc hright => by
      rw [denoted_between (by simp [hc]), denoted_cons_of_ne (by simp [ha]), texts, texts,
        texts_of_operand hbody, texts_of_operand hright]
  | _, _, .messagePair _ hb hv hobject hc hright => by
      rw [denoted_between (by simp [hc]), denoted_cons_of_ne (by simp [hb]),
        denoted_cons_of_ne (kind_ne_string_of_isVerb hv), texts, texts, texts_of_operand hobject,
        texts_of_operand hright]

theorem texts_of_sending : ∀ {ws : List Word} {e : Expr}, Sending head ws e → e.texts = denoted ws
  | _, _, .value he => texts_of_operand he
  | _, _, .send hsubject hv hobject => by
      rw [denoted_between (kind_ne_string_of_isVerb hv), texts, texts_of_sending hsubject,
        texts_of_operand hobject]

theorem texts_of_row : ∀ {ws : List Word} {es : List Expr}, Row head ws es →
    textsItems es = denoted ws
  | _, _, .one he => by
      rw [textsItems, textsItems, texts_of_sending he, List.append_nil]
  | _, _, .cons he hc hes => by
      rw [denoted_between (by simp [hc]), textsItems, texts_of_sending he, texts_of_row hes]

theorem texts_of_entries : ∀ {ws : List Word} {es : List (String × Expr)}, Entries head ws es →
    textsEntries es = denoted ws
  | _, _, .one hk hc he => by
      rw [denoted_cons hk, denoted_cons_of_ne (by simp [hc]), textsEntries, textsEntries,
        texts_of_operand he, List.append_nil]
  | _, _, .cons hk hc he hs hes => by
      rw [denoted_between (by simp [hs]), denoted_cons hk, denoted_cons_of_ne (by simp [hc]),
        textsEntries, texts_of_operand he, texts_of_entries hes, List.cons_append]

end

end Expr

/-! ## Programs -/

/-- The strings that the scanner finds are literals. -/
lemma isLiteral_of_scans {text : List Char} {ws : List Word} (h : Scans text ws) :
    ∀ literal ∈ Word.literals ws, IsLiteral literal := by
  induction h with
  | nil => simp [Word.literals]
  | blank _ _ ih => exact ih
  | @word c lexeme rest kind ws hlexeme _ ih =>
      by_cases hkind : kind = .string
      · subst hkind
        have hliteral := Cursor.isLiteral_of_scan (Cursor.scan_lexeme .start hlexeme) rfl
        rw [Word.literals_cons rfl, List.forall_mem_cons]
        exact ⟨hliteral, ih⟩
      · rwa [Word.literals_cons_of_ne hkind]

/-- The strings and keys of what a text parses to are what its literals stand for. -/
lemma texts_of_parse {source : String} {e : Expr} (h : parse source = .ok e) :
    e.texts = (Tokens.ofText source).literals.map unquote ∧
      ∀ literal ∈ (Tokens.ofText source).literals, IsLiteral literal := by
  obtain ⟨ws, hscans, hsending⟩ := parse_eq_ok.1 h
  rw [Tokens.literals, Tokens.items_of_scans hscans]
  exact ⟨Expr.texts_of_sending hsending, isLiteral_of_scans hscans⟩

/-- What literals stand for is the same at two places exactly if the literals are. -/
lemma getElem?_map_unquote_eq_iff {literals : List String}
    (h : ∀ literal ∈ literals, IsLiteral literal) (i j : Nat) :
    (literals.map unquote)[i]? = (literals.map unquote)[j]? ↔ literals[i]? = literals[j]? := by
  rw [List.getElem?_map, List.getElem?_map]
  cases hi : literals[i]? with
  | none => cases literals[j]? <;> simp
  | some literal =>
      cases hj : literals[j]? with
      | none => simp
      | some literal' =>
          simp only [Option.map_some, Option.some.injEq]
          exact unquote_injOn.eq_iff (h _ (List.mem_of_getElem? hi)) (h _ (List.mem_of_getElem? hj))

/-- **Literals never collide.**

* A text has one literal at most, and it has one exactly if it is denotable: the backslashes before
  a double quote are even in number, and those at the end are odd in number or none.
* What strings stand for is different wherever in whatever texts the scanner finds them, if they are
  written differently.
* The strings and keys of a program are what its literals stand for, in the order in which they are
  written, so two of them are the same exactly if their literals are. -/
theorem literals_distinct :
    (∀ text, {literal | IsLiteral literal ∧ unquote literal = text}.Subsingleton) ∧
    (∀ text, (∃ literal, IsLiteral literal ∧ unquote literal = text) ↔ Denotable text.toList) ∧
    Set.InjOn unquote {text | ∃ cursor token next, Cursor.scan cursor = (.ok token, next) ∧
      token.kind = .string ∧ token.text = text} ∧
    ∀ source e, parse source = .ok e →
      e.texts = (Tokens.ofText source).literals.map unquote ∧
        ∀ i j : Nat, e.texts[i]? = e.texts[j]? ↔
          (Tokens.ofText source).literals[i]? = (Tokens.ofText source).literals[j]? := by
  refine ⟨?_, fun text => exists_literal_iff, ?_, ?_⟩
  · rintro text literal ⟨h, rfl⟩ literal' ⟨h', heq⟩
    exact unquote_injOn h h' heq.symm
  · rintro _ ⟨_, token, _, hscan, hkind, rfl⟩ _ ⟨_, token', _, hscan', hkind', rfl⟩ heq
    exact unquote_injOn (Cursor.isLiteral_of_scan hscan hkind)
      (Cursor.isLiteral_of_scan hscan' hkind') heq
  · intro source e h
    obtain ⟨htexts, hliterals⟩ := texts_of_parse h
    rw [htexts]
    exact ⟨rfl, getElem?_map_unquote_eq_iff hliterals⟩

/-- The program `#{"\\": "\\\\", "\"": "\\"}`. -/
def backslashSource : String :=
  "#\x7b\"\\\\\": \"\\\\\\\\\", \"\\\"\": \"\\\\\"\x7d"

/-- Its literals stand for one backslash, three of them, a double quote and one backslash, so the
first and the last are the same and the first and the second are not. -/
theorem literals_distinct_backslashSource :
    ∃ e, parse backslashSource = .ok e ∧ e.texts = ["\\", "\\\\\\", "\"", "\\"] ∧
      e.texts[0]? = e.texts[3]? ∧ e.texts[0]? ≠ e.texts[1]? := by
  have hparse : parse backslashSource
      = .ok (.map [("\\", .string "\\\\\\"), ("\"", .string "\\")]) := by cbv
  have hliterals : (Tokens.ofText backslashSource).literals
      = ["\"\\\\\"", "\"\\\\\\\\\"", "\"\\\"\"", "\"\\\\\""] := by cbv
  obtain ⟨-, hplaces⟩ := literals_distinct.2.2.2 _ _ hparse
  rw [hliterals] at hplaces
  exact ⟨_, hparse, rfl, (hplaces 0 3).2 rfl, (hplaces 0 1).not.2 (by decide)⟩

end Missive
