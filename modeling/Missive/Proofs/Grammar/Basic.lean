import Missive.Expr.Parser
import Missive.Proofs.Token.Words

/-!
# The grammar of programs

Which sequences of tokens are programs, and which expression each of them stands for, said without
any parser.  The places of the tokens play no part, so the grammar speaks of *words*: the kind of a
token and its text.

The grammar comes in two versions that differ in what may stand before the colon of a pair.  With
`PairHead.closed` it is a closed expression, and an `@` or a quoted message reaches over all colons
behind it.  With `PairHead.any` it is also an `@` with its value or a quoted message; then
`@a:b` has two readings.

* `Closed`, `Operand`, `Sending`, `Row`, `Entries`: the phrases, each with its expression.
* `Program`: a whole text, up to the word that marks its end.
-/

namespace Missive

/-- The token that opens a bracket. -/
def Bracket.opening : Bracket → TokenKind
  | block => .openBlock
  | array => .openArray

lemma Bracket.opening_ne_openParen (bracket : Bracket) : bracket.opening ≠ .openParen := by
  cases bracket <;> exact nofun

namespace Grammar

/-- What may stand before the colon of a pair. -/
inductive PairHead
  /-- Closed expressions only. -/
  | closed
  /-- Also an `@` with its value, and a quoted message. -/
  | any
  deriving DecidableEq

/-- Whether a word can be the verb of a message. -/
def IsVerb (w : Word) : Prop :=
  w.kind = .verb ∨ w.kind = .name

/-- The expression that a word stands for by itself.  A whole number stands for something only if
it is not too large. -/
def literal? (w : Word) : Option Expr :=
  match w.kind with
  | .number =>
    let n := natOfDigits w.text.toList
    if n ≤ Parser.greatestInt then some (.int (Int64.ofNat n)) else none
  | .float => some (.float (Parser.floatLiteral w.text.toList))
  | .string => some (.string (Text.unquote w.text))
  | .name => some (.name w.text)
  | _ => none

/-- The four kinds of words that stand for an expression. -/
theorem literal?_cases {w : Word} {e : Expr} (h : literal? w = some e) :
    (w.kind = .number ∧ natOfDigits w.text.toList ≤ Parser.greatestInt ∧
      e = .int (Int64.ofNat (natOfDigits w.text.toList))) ∨
    (w.kind = .float ∧ e = .float (Parser.floatLiteral w.text.toList)) ∨
    (w.kind = .string ∧ e = .string (Text.unquote w.text)) ∨
    (w.kind = .name ∧ e = .name w.text) := by
  unfold literal? at h
  split at h <;> rename_i hkind
  · by_cases hfits : natOfDigits w.text.toList ≤ Parser.greatestInt
    · simp only [hfits, ↓reduceIte, Option.some.injEq] at h
      exact .inl ⟨hkind, hfits, h.symm⟩
    · simp [hfits] at h
  · exact .inr (.inl ⟨hkind, (Option.some.inj h).symm⟩)
  · exact .inr (.inr (.inl ⟨hkind, (Option.some.inj h).symm⟩))
  · exact .inr (.inr (.inr ⟨hkind, (Option.some.inj h).symm⟩))
  · cases h

/-! ## Phrases -/

mutual

/-- Phrases that stand for themselves wherever a value may stand. -/
inductive Closed (head : PairHead) : List Word → Expr → Prop
  /-- `()` -/
  | nil {l r : Word} : l.kind = .openParen → r.kind = .closeParen → Closed head [l, r] .nil
  /-- `(send)` -/
  | paren {l r : Word} {ws : List Word} {e : Expr} :
      l.kind = .openParen → Sending head ws e → r.kind = .closeParen →
      Closed head (l :: (ws ++ [r])) e
  /-- A number, a string or a name. -/
  | literal {w : Word} {e : Expr} : literal? w = some e → Closed head [w] e
  /-- A block or an array without items. -/
  | empty (bracket : Bracket) {l r : Word} :
      l.kind = bracket.opening → r.kind = bracket.close → Closed head [l, r] (bracket.expr [])
  /-- A block or an array. -/
  | row (bracket : Bracket) {l r : Word} {ws : List Word} {es : List Expr} :
      l.kind = bracket.opening → Row head ws es → r.kind = bracket.close →
      Closed head (l :: (ws ++ [r])) (bracket.expr es)
  /-- A map without entries. -/
  | emptyMap {l r : Word} :
      l.kind = .openMap → r.kind = .closeBlock → Closed head [l, r] (.map [])
  /-- A map. -/
  | map {l r : Word} {ws : List Word} {es : List (String × Expr)} :
      l.kind = .openMap → Entries head ws es → r.kind = .closeBlock →
      Closed head (l :: (ws ++ [r])) (.map es)

/-- Phrases that may stand behind a verb. -/
inductive Operand (head : PairHead) : List Word → Expr → Prop
  | closed {ws : List Word} {e : Expr} : Closed head ws e → Operand head ws e
  /-- `closed:value` -/
  | pair {c : Word} {ws us : List Word} {left right : Expr} :
      Closed head ws left → c.kind = .colon → Operand head us right →
      Operand head (ws ++ c :: us) (.pair left right)
  /-- `@value` -/
  | later {a : Word} {ws : List Word} {body : Expr} :
      a.kind = .at → Operand head ws body → Operand head (a :: ws) (.later body)
  /-- `\ verb value` -/
  | message {b v : Word} {ws : List Word} {object : Expr} :
      b.kind = .backslash → IsVerb v → Operand head ws object →
      Operand head (b :: v :: ws) (.message v.text object)
  /-- `@value:value`, with the colon outside of the `@`. -/
  | laterPair {a c : Word} {ws us : List Word} {body right : Expr} :
      head = .any → a.kind = .at → Operand head ws body → c.kind = .colon →
      Operand head us right → Operand head (a :: ws ++ c :: us) (.pair (.later body) right)
  /-- `\ verb value:value`, with the colon outside of the message. -/
  | messagePair {b v c : Word} {ws us : List Word} {object right : Expr} :
      head = .any → b.kind = .backslash → IsVerb v → Operand head ws object → c.kind = .colon →
      Operand head us right →
      Operand head (b :: v :: ws ++ c :: us) (.pair (.message v.text object) right)

/-- A value with any number of messages sent to it, one after the other. -/
inductive Sending (head : PairHead) : List Word → Expr → Prop
  | value {ws : List Word} {e : Expr} : Operand head ws e → Sending head ws e
  | send {v : Word} {ws us : List Word} {subject object : Expr} :
      Sending head ws subject → IsVerb v → Operand head us object →
      Sending head (ws ++ v :: us) (.send subject v.text object)

/-- The items of a block or an array, at least one. -/
inductive Row (head : PairHead) : List Word → List Expr → Prop
  | one {ws : List Word} {e : Expr} : Sending head ws e → Row head ws [e]
  | cons {c : Word} {ws us : List Word} {e : Expr} {es : List Expr} :
      Sending head ws e → c.kind = .comma → Row head us es → Row head (ws ++ c :: us) (e :: es)

/-- The entries of a map, at least one. -/
inductive Entries (head : PairHead) : List Word → List (String × Expr) → Prop
  | one {k c : Word} {ws : List Word} {e : Expr} :
      k.kind = .string → c.kind = .colon → Operand head ws e →
      Entries head (k :: c :: ws) [(Text.unquote k.text, e)]
  | cons {k c s : Word} {ws us : List Word} {e : Expr} {es : List (String × Expr)} :
      k.kind = .string → c.kind = .colon → Operand head ws e → s.kind = .comma →
      Entries head us es →
      Entries head (k :: c :: ws ++ s :: us) ((Text.unquote k.text, e) :: es)

end

/-- A whole program. -/
inductive Program (head : PairHead) : List Word → Expr → Prop
  | intro {eof : Word} {ws : List Word} {e : Expr} :
      Sending head ws e → eof.kind = .eof → Program head (ws ++ [eof]) e

end Grammar

end Missive
