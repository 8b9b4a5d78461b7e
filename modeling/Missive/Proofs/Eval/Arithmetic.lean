import Missive.Proofs.Eval.Refinement
import Missive.Proofs.Grammar.Parsing
import Missive.Proofs.Render.Shape
import Mathlib.Data.Int.ModEq

/-!
# Arithmetic on whole numbers

An `Arithmetic` is an expression of literals and the three operators on integers.  Its text has a
blank on either side of each operator and parentheses around a right operand that is no literal, and
nowhere else, since sends group to the left.  Its exact value is a number of any size; the program
comes to that value modulo 2^64, as a word of 64 bits with sign.

* `Arithmetic.parse_text`: the text is read as the expression.
* `Arithmetic.interpret_expr`: the expression means its exact value, taken modulo 2^64 once.
* `Arithmetic.settles_text`: the program comes to an integer, and to which one.
-/

namespace Missive

open Grammar Text

namespace IntegerOp

/-- The verb of an operator. -/
def verb : IntegerOp → String
  | add => "+"
  | sub => "-"
  | mul => "*"

/-- What an operator computes with numbers of any size. -/
def exact : IntegerOp → Int → Int → Int
  | add, a, b => a + b
  | sub, a, b => a - b
  | mul, a, b => a * b

/-- Taking operands modulo 2^64 does not change the result modulo 2^64. -/
lemma apply_ofInt (op : IntegerOp) (a b : Int) :
    op.apply (Int64.ofInt a) (Int64.ofInt b) = Int64.ofInt (op.exact a b) := by
  cases op with
  | add => exact (Int64.ofInt_add a b).symm
  | sub => exact (Int64.ofInt_sub a b).symm
  | mul => exact (Int64.ofInt_mul a b).symm

/-- A message to an integer with an integer computes. -/
lemma deliver_verb (op : IntegerOp) (a b : Int64) :
    deliver (.integer a) op.verb (.integer b) = some (.ok (.integer (op.apply a b))) := by
  have hanswer : deliver (.integer a) op.verb (.integer b)
      = some (Operator.integer op (.integer a) (.integer b)) := by
    rw [Operator.integer_eq]
    cases op <;> rfl
  exact hanswer

/-- The verb of an operator is one word. -/
lemma validVerb (op : IntegerOp) : ValidVerb op.verb := by
  cases op <;> exact ⟨.verb, .inl rfl, by decide⟩

end IntegerOp

/-- An expression of whole numbers. -/
inductive Arithmetic
  | literal (n : Fin (2 ^ 63))
  | compute (op : IntegerOp) (left right : Arithmetic)

namespace Arithmetic

/-- The exact value. -/
def value : Arithmetic → Int
  | literal n => n.val
  | compute op left right => op.exact left.value right.value

/-- The text of a right operand, given its text as a program. -/
def operandText : Arithmetic → String → String
  | literal _, text => text
  | compute _ _ _, text => "(" ++ text ++ ")"

/-- The text as a program. -/
def text : Arithmetic → String
  | literal n => toString n.val
  | compute op left right =>
    left.text ++ " " ++ op.verb ++ " " ++ right.operandText right.text

/-- The expression that the text stands for. -/
def expr : Arithmetic → Expr
  | literal n => .int (Int64.ofInt n.val)
  | compute op left right => .send left.expr op.verb right.expr

/-! ## Reading -/

/-- A literal is one word, and stands for its number. -/
lemma exists_words_literal (n : Fin (2 ^ 63)) :
    ∃ w, Scans (toString n.val).toList [w] ∧ literal? w = some (.int (Int64.ofInt n.val)) := by
  have hlt := n.isLt
  have hvalue : (Int64.ofInt n.val).toInt = n.val :=
    Int64.toInt_ofInt_of_le (by omega) (by omega)
  have htext : toString (Int64.ofInt n.val) = toString n.val := by
    change toString (Int64.ofInt n.val).toInt = _
    rw [hvalue]
    rfl
  have hsign : 0 ≤ (Int64.ofInt n.val).toInt := by omega
  rw [← htext]
  exact ⟨_, scans_integer hsign, Value.literal?_integer hsign⟩

/-- A right operand is a closed phrase. -/
lemma exists_words_operandText {a : Arithmetic} {ws : List Word}
    (hscans : Scans a.text.toList ws) (hsending : Sending .closed ws a.expr) :
    ∃ us, Scans (a.operandText a.text).toList us ∧ Closed .closed us a.expr := by
  cases a with
  | literal n =>
      obtain ⟨w, hw, hliteral⟩ := exists_words_literal n
      exact ⟨[w], hw, .literal hliteral⟩
  | compute op left right =>
      have hparens : Scans ('(' :: ((compute op left right).text.toList ++ [')'])) _ :=
        .punctuation rfl (hscans.append (.cons (by decide) []) (.punctuation rfl .nil))
      refine ⟨_, ?_, .paren (l := ⟨.openParen, "("⟩) (r := ⟨.closeParen, ")"⟩) rfl hsending rfl⟩
      simpa [operandText] using hparens

/-- The text is a program of its expression. -/
lemma exists_words_text (a : Arithmetic) :
    ∃ ws, Scans a.text.toList ws ∧ Sending .closed ws a.expr := by
  induction a with
  | literal n =>
      obtain ⟨w, hw, hliteral⟩ := exists_words_literal n
      exact ⟨[w], hw, .value (.closed (.literal hliteral))⟩
  | compute op left right ihleft ihright =>
      obtain ⟨ws, hws, hleft⟩ := ihleft
      obtain ⟨vs, hvs, hright⟩ := ihright
      obtain ⟨us, hus, hoperand⟩ := exists_words_operandText hvs hright
      obtain ⟨hverb, hverbText⟩ := Value.isVerb_verbWord op.validVerb
      refine ⟨ws ++ verbWord op.verb :: us, ?_, ?_⟩
      · have htext := hws.append (.cons (by decide) _) (Value.scans_verb_between op.validVerb hus)
        simpa [text] using htext
      · have hsend := Sending.send hleft hverb (.closed hoperand)
        rwa [hverbText] at hsend

/-- The text is read as the expression. -/
theorem parse_text (a : Arithmetic) : parse a.text = .ok a.expr :=
  parse_eq_ok.2 a.exists_words_text

example : (compute .mul (compute .sub (literal 1) (literal 2)) (literal 3)).text = "1 - 2 * 3" ∧
    (compute .sub (literal 1) (compute .mul (literal 2) (literal 3))).text = "1 - (2 * 3)" := by
  cbv

/-! ## Computing -/

/-- The expression means its exact value, taken modulo 2^64 once. -/
theorem interpret_expr (a : Arithmetic) (scope : Scope) :
    interpret scope (Value.ofExpr a.expr) = some (.ok (.integer (Int64.ofInt a.value))) := by
  induction a with
  | literal n =>
      rw [interpret_eq]
      rfl
  | compute op left right ihleft ihright =>
      have hdeliver : interpret scope (Value.ofExpr (compute op left right).expr)
          = deliver (.integer (Int64.ofInt left.value)) op.verb
              (.integer (Int64.ofInt right.value)) := by
        rw [interpret_eq, expr, Value.ofExpr, Direct.evaluation, ihleft, ihright]
        rfl
      rw [hdeliver, op.deliver_verb, op.apply_ofInt]
      rfl

/-- The word of a number is the one number in the range of words that is the same modulo 2^64. -/
lemma eq_toInt_ofInt_iff (m x : Int) :
    m = (Int64.ofInt x).toInt ↔ -2 ^ 63 ≤ m ∧ m < 2 ^ 63 ∧ m ≡ x [ZMOD 2 ^ 64] := by
  have hword : (Int64.ofInt x).toInt = x.bmod (2 ^ 64) := Int64.toInt_ofInt
  rw [hword]
  constructor
  · rintro rfl
    exact ⟨Int.le_bmod (by decide), Int.bmod_lt (by decide), Int.bmod_emod⟩
  · rintro ⟨hle, hlt, hmod⟩
    calc
      m = m.bmod (2 ^ 64) := (Int.bmod_eq_of_le hle hlt).symm
      _ = (m % 2 ^ 64).bmod (2 ^ 64) := (Int.emod_bmod m (2 ^ 64)).symm
      _ = (x % 2 ^ 64).bmod (2 ^ 64) := by rw [hmod.eq]
      _ = x.bmod (2 ^ 64) := Int.emod_bmod x (2 ^ 64)

/-- **Whole numbers are computed modulo 2^64.**  The program of an arithmetic expression comes to an
integer, however large or deep it is: to the one in the range of words that is the exact value
modulo 2^64. -/
theorem settles_text (a : Arithmetic) :
    ∃ n : Int64, Settles (fun fuel => run fuel a.text) (some (.ok (.integer n))) ∧
      ∀ m : Int, m = n.toInt ↔ -2 ^ 63 ≤ m ∧ m < 2 ^ 63 ∧ m ≡ a.value [ZMOD 2 ^ 64] := by
  refine ⟨Int64.ofInt a.value, ?_, fun m => eq_toInt_ofInt_iff m a.value⟩
  have hsettles := run_settles a.parse_text
  rwa [a.interpret_expr] at hsettles

end Arithmetic

end Missive
