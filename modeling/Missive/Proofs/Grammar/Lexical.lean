import Missive.Proofs.Expr.Parts
import Missive.Proofs.Grammar.Parsing
import Missive.Proofs.Render.Words

/-!
# What a text can read as

The words of a text are what the scanner takes for words, so names, verbs and whole numbers of an
expression that a text derives are such words.

* `GoodWord`, `GoodWords`: what the scanner makes sure of.
* `Expr.Lexical`: every leaf of an expression is one word.
* `Expr.lexical_of_closed` and the theorems with it: one for each phrase.
* `Expr.lexical_of_parse`: whole programs.
-/

namespace Missive

open Text Grammar

/-! ## Words -/

/-- The text of a name or a verb is one. -/
def GoodWord (w : Word) : Prop :=
  (w.kind = .name → ValidName w.text) ∧ (IsVerb w → ValidVerb w.text)

/-- Words that the scanner may find. -/
def GoodWords (ws : List Word) : Prop :=
  ∀ w ∈ ws, GoodWord w

namespace GoodWords

variable {w : Word} {ws us : List Word}

lemma head (h : GoodWords (w :: ws)) : GoodWord w :=
  (List.forall_mem_cons.1 h).1

lemma tail (h : GoodWords (w :: ws)) : GoodWords ws :=
  (List.forall_mem_cons.1 h).2

lemma left (h : GoodWords (ws ++ us)) : GoodWords ws :=
  (List.forall_mem_append.1 h).1

lemma right (h : GoodWords (ws ++ us)) : GoodWords us :=
  (List.forall_mem_append.1 h).2

end GoodWords

/-- A name begins with a letter, a verb that is no name with a symbol, and both take all that may
follow. -/
lemma ofChars_cases {c : Char} {lexeme rest : List Char} {kind : TokenKind}
    (hkind : kind = .verb ∨ kind = .name)
    (h : Lexeme.ofChars (c :: rest) = ⟨c :: lexeme, .token kind⟩) :
    (kind = .name ∧ isLetter c = true ∧ rest.takeWhile isLetterOrDigit = lexeme) ∨
    (kind = .verb ∧ isVerbSymbol c = true ∧ rest.takeWhile isVerbPart = lexeme) := by
  generalize htoken : (⟨c :: lexeme, .token kind⟩ : Lexeme) = token at h
  cases Lexeme.begins_iff.2 h with
  | punctuation hother =>
      cases htoken
      unfold Lexeme.punctuation? at hother
      split at hother <;> rcases hkind with rfl | rfl <;> cases hother
  | string =>
      unfold Lexeme.ofString at htoken
      split at htoken <;> rcases hkind with rfl | rfl <;> cases htoken
  | hash =>
      unfold Lexeme.ofHash at htoken
      split at htoken <;> rcases hkind with rfl | rfl <;> cases htoken
  | number =>
      unfold Lexeme.ofNumber at htoken
      split at htoken
      · split at htoken <;> rcases hkind with rfl | rfl <;> cases congrArg Lexeme.reading htoken
      · rcases hkind with rfl | rfl <;> cases congrArg Lexeme.reading htoken
  | name hletter =>
      cases htoken
      exact .inl ⟨rfl, hletter, rfl⟩
  | verb hverb =>
      cases htoken
      exact .inr ⟨rfl, hverb, rfl⟩
  | stray => cases htoken

/-- A name is a letter with letters and digits behind it. -/
lemma validName_of_ofChars {c : Char} {lexeme rest : List Char}
    (h : Lexeme.ofChars (c :: (lexeme ++ rest)) = ⟨c :: lexeme, .token .name⟩) :
    ValidName (String.ofList (c :: lexeme)) := by
  rcases ofChars_cases (.inr rfl) h with ⟨-, hletter, htake⟩ | ⟨hkind, -⟩
  · exact ⟨c, lexeme, String.toList_ofList, hletter, (run_of_takeWhile htake).1⟩
  · cases hkind

/-- A name or a verb is the same lexeme without what follows it. -/
lemma validVerb_of_ofChars {c : Char} {lexeme rest : List Char} {kind : TokenKind}
    (hkind : kind = .verb ∨ kind = .name)
    (h : Lexeme.ofChars (c :: (lexeme ++ rest)) = ⟨c :: lexeme, .token kind⟩) :
    ValidVerb (String.ofList (c :: lexeme)) := by
  refine ⟨kind, hkind, ?_⟩
  rw [String.toList_ofList]
  rcases ofChars_cases hkind h with ⟨rfl, hletter, htake⟩ | ⟨rfl, hverb, htake⟩
  · rw [Lexeme.begins_iff.1 (.name hletter),
      List.takeWhile_eq_self_iff.2 (run_of_takeWhile htake).1]
  · rw [Lexeme.begins_iff.1 (.verb hverb),
      List.takeWhile_eq_self_iff.2 (run_of_takeWhile htake).1]

/-- The scanner finds good words. -/
lemma goodWords_of_scans {text : List Char} {ws : List Word} (h : Scans text ws) :
    GoodWords ws := by
  induction h with
  | nil => simp [GoodWords]
  | blank _ _ ih => exact ih
  | word hlexeme _ ih =>
      refine List.forall_mem_cons.2 ⟨⟨?_, ?_⟩, ih⟩
      · rintro rfl
        exact validName_of_ofChars hlexeme
      · intro hverb
        exact validVerb_of_ofChars hverb hlexeme

/-! ## Phrases -/

namespace Expr

/-- What stands in a node itself is one word of a program: whole numbers have no sign, names are
names and verbs are verbs. -/
def LexicalNode : Expr → Prop
  | int value => 0 ≤ value.toInt
  | name text => ValidName text
  | message verb _ | send _ verb _ => ValidVerb verb
  | _ => True

/-- Every leaf and every verb of the expression is one word of a program. -/
def Lexical (e : Expr) : Prop :=
  e.Everywhere LexicalNode

lemma Lexical.of_parts {e : Expr} (hnode : e.LexicalNode)
    (hparts : ∀ part ∈ e.parts, part.Lexical) : e.Lexical :=
  everywhere_iff.2 ⟨hnode, hparts⟩

/-- Two parts that are lexical. -/
lemma Lexical.forall_pair {left right : Expr} (hleft : left.Lexical) (hright : right.Lexical) :
    ∀ part ∈ [left, right], part.Lexical := by
  simp [hleft, hright]

lemma lexical_of_literal {w : Word} {e : Expr} (hw : GoodWord w) (h : literal? w = some e) :
    e.Lexical := by
  rcases literal?_cases h with ⟨-, hfits, rfl⟩ | ⟨-, rfl⟩ | ⟨-, rfl⟩ | ⟨hkind, rfl⟩
  · refine .of_parts ?_ (by simp)
    rw [LexicalNode, Int64.toInt_ofNat_of_lt]
    · omega
    · simp only [Parser.greatestInt] at hfits
      omega
  · exact .of_parts trivial (by simp)
  · exact .of_parts trivial (by simp)
  · exact .of_parts (hw.1 hkind) (by simp)

variable {head : PairHead}

mutual

theorem lexical_of_closed : ∀ {ws : List Word} {e : Expr}, GoodWords ws → Closed head ws e →
    e.Lexical
  | _, _, _, .nil _ _ => .of_parts trivial (by simp)
  | _, _, hws, .paren _ he _ => lexical_of_sending hws.tail.left he
  | _, _, hws, .literal he => lexical_of_literal hws.head he
  | _, _, _, .empty .block _ _ | _, _, _, .empty .array _ _ =>
      .of_parts trivial (by simp [Bracket.expr])
  | _, _, hws, .row .block _ hes _ | _, _, hws, .row .array _ hes _ =>
      .of_parts trivial (lexical_of_row hws.tail.left hes)
  | _, _, _, .emptyMap _ _ => .of_parts trivial (by simp)
  | _, _, hws, .map _ hes _ => .of_parts trivial (lexical_of_entries hws.tail.left hes)

theorem lexical_of_operand : ∀ {ws : List Word} {e : Expr}, GoodWords ws → Operand head ws e →
    e.Lexical
  | _, _, hws, .closed he => lexical_of_closed hws he
  | _, _, hws, .pair hleft _ hright =>
      .of_parts trivial (.forall_pair (lexical_of_closed hws.left hleft)
        (lexical_of_operand hws.right.tail hright))
  | _, _, hws, .later _ hbody =>
      .of_parts trivial (by simpa using lexical_of_operand hws.tail hbody)
  | _, _, hws, .message _ hv hobject =>
      .of_parts (hws.tail.head.2 hv) (by simpa using lexical_of_operand hws.tail.tail hobject)
  | _, _, hws, .laterPair _ _ hbody _ hright =>
      .of_parts trivial (.forall_pair
        (.of_parts trivial (by simpa using lexical_of_operand hws.left.tail hbody))
        (lexical_of_operand hws.right.tail hright))
  | _, _, hws, .messagePair _ _ hv hobject _ hright =>
      .of_parts trivial (.forall_pair
        (.of_parts (hws.left.tail.head.2 hv)
          (by simpa using lexical_of_operand hws.left.tail.tail hobject))
        (lexical_of_operand hws.right.tail hright))

theorem lexical_of_sending : ∀ {ws : List Word} {e : Expr}, GoodWords ws → Sending head ws e →
    e.Lexical
  | _, _, hws, .value he => lexical_of_operand hws he
  | _, _, hws, .send hsubject hv hobject =>
      .of_parts (hws.right.head.2 hv) (.forall_pair (lexical_of_sending hws.left hsubject)
        (lexical_of_operand hws.right.tail hobject))

theorem lexical_of_row : ∀ {ws : List Word} {es : List Expr}, GoodWords ws → Row head ws es →
    ∀ item ∈ es, item.Lexical
  | _, _, hws, .one he => List.forall_mem_singleton.2 (lexical_of_sending hws he)
  | _, _, hws, .cons he _ hes =>
      List.forall_mem_cons.2 ⟨lexical_of_sending hws.left he, lexical_of_row hws.right.tail hes⟩

theorem lexical_of_entries : ∀ {ws : List Word} {es : List (String × Expr)}, GoodWords ws →
    Entries head ws es → ∀ value ∈ es.map Prod.snd, value.Lexical
  | _, _, hws, .one _ _ he => List.forall_mem_singleton.2 (lexical_of_operand hws.tail.tail he)
  | _, _, hws, .cons _ _ he _ hes =>
      List.forall_mem_cons.2 ⟨lexical_of_operand hws.left.tail.tail he,
        lexical_of_entries hws.right.tail hes⟩

end

/-- **What a text parses to** is lexical. -/
theorem lexical_of_parse {source : String} {e : Expr} (h : parse source = .ok e) : e.Lexical := by
  obtain ⟨ws, hscans, hsending⟩ := parse_eq_ok.1 h
  exact lexical_of_sending (goodWords_of_scans hscans) hsending

end Expr

end Missive
