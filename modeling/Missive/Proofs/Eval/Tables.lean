import Missive.Eval.Send
import Missive.Proofs.Eval.Interpreter
import Missive.Proofs.Frame.Builtin

/-!
# The built-in tables

What a type understands is written down twice: as a table of replies (`Tag.replies?`), which becomes
a prototype, and as the tables of the direct interpreter.  `answered_operators` says that they agree
on the operators, and the lemmas on `Tag.reply?` say where the verbs of evaluation and control are.
-/

namespace Missive

/-! ## The tables of operators -/

/-- Integers are in the order of the numbers that they stand for. -/
lemma Operator.order_eq (subject object : Value) :
    Operator.order subject object = Direct.order subject object := by
  unfold Operator.order
  split
  · rename_i a b
    change some (compareOfLessAndEq a b) = some (compareOfLessAndEq a.toInt b.toInt)
    simp [compareOfLessAndEq, Int64.lt_iff_toInt_lt, ← Int64.toInt_inj]
  · rfl
  · rfl
  · rename_i hinteger hfloat hstring
    unfold Direct.order
    split
    · exact absurd rfl (hinteger _ _ rfl)
    · exact absurd rfl (hfloat _ _ rfl)
    · exact absurd rfl (hstring _ _ rfl)
    · rfl

/-- Operators on integers compute exactly and take the result modulo 2^64. -/
lemma Operator.integer_eq (op : IntegerOp) (a : Int64) (object : Value) :
    Operator.integer op (.integer a) object
      = Direct.integers (match op with | .add => (· + ·) | .sub => (· - ·) | .mul => (· * ·)) a
          object := by
  cases object with
  | integer b => cases op <;> simp [Operator.integer, Direct.integers, IntegerOp.apply]
  | _ => rfl

lemma Operator.float_eq (op : FloatOp) (a : Float) (object : Value) :
    Operator.float op (.float a) object = Direct.floats op.apply a object := by
  cases object <;> rfl

lemma Operator.concat_eq (a : String) (object : Value) :
    Operator.concat (.string a) object = Direct.strings a object := by
  cases object <;> rfl

lemma Operator.compare_eq {type : Ordered} {subject : Value} (h : subject.tag = type.tag)
    (relation : Relation) (object : Value) :
    Operator.compare type relation subject object
      = Direct.compared relation.holds subject object := by
  rw [Operator.compare, Direct.compared, Operator.order_eq, EvalError.mismatch, h]
  simp

section Tables

variable (send : Sender) (id : FrameId)

/-- What a table of replies makes of a subject, a verb and an operand. -/
def answered (replies : List (String × Reply)) (subject : Value) (verb : String)
    (object : Value) : Option (EvalM Value) :=
  (replies.lookup verb).map fun reply => reply.run send id subject object

lemma answered_append (replies replies' : List (String × Reply)) (subject : Value)
    (verb : String) (object : Value) :
    answered send id (replies ++ replies') subject verb object
      = (answered send id replies subject verb object).or
          (answered send id replies' subject verb object) := by
  rw [answered, List.lookup_append]
  cases h : replies.lookup verb <;> simp [answered, h]

lemma answered_eq_none {replies : List (String × Reply)} {verb : String}
    (h : ∀ entry ∈ replies, verb ≠ entry.1) (subject object : Value) :
    answered send id replies subject verb object = none := by
  have hlookup : replies.lookup verb = none := by
    rw [List.lookup_eq_none_iff]
    exact fun entry hentry => bne_iff_ne.mpr (h entry hentry)
  rw [answered, hlookup]
  rfl

/-- The comparisons of an ordered type. -/
lemma answered_comparisons {type : Ordered} {subject : Value} (h : subject.tag = type.tag)
    (verb : String) (object : Value) :
    answered send id (Tag.comparisons type) subject verb object
      = ((Direct.test? verb).map fun test => Direct.compared test subject object).map
          EvalM.ofExcept := by
  by_cases hverb : ∃ relation : Relation, relation.verb = verb
  · obtain ⟨relation, rfl⟩ := hverb
    have hlookup : (Tag.comparisons type).lookup relation.verb
        = some (.compare type relation) := by
      cases relation <;> rfl
    have htest : Direct.test? relation.verb = some relation.holds := by
      cases relation <;> rfl
    rw [answered, hlookup, htest, Option.map_some, Option.map_some, Option.map_some,
      ← Operator.compare_eq h]
    rfl
  · have htest : Direct.test? verb = none := by
      unfold Direct.test?
      split
      · exact absurd ⟨.less, rfl⟩ hverb
      · exact absurd ⟨.lessEqual, rfl⟩ hverb
      · exact absurd ⟨.greater, rfl⟩ hverb
      · exact absurd ⟨.greaterEqual, rfl⟩ hverb
      · exact absurd ⟨.equal, rfl⟩ hverb
      · exact absurd ⟨.notEqual, rfl⟩ hverb
      · rfl
    rw [htest]
    refine answered_eq_none send id (fun entry hentry heq => ?_) subject object
    obtain ⟨relation, -, rfl⟩ := List.mem_map.mp hentry
    exact hverb ⟨relation, heq.symm⟩

/-- The comparisons of nil. -/
lemma answered_nil (verb : String) (object : Value) :
    answered send id Tag.nil.operators .nil verb object
      = ((Direct.comparedNil? verb object).map Except.ok).map EvalM.ofExcept := by
  unfold Direct.comparedNil?
  split
  · rfl
  · rfl
  · rfl
  · rfl
  · cases object <;> rfl
  · cases object <;> rfl
  · rename_i hless hlessEqual hgreater hgreaterEqual hequal hnotEqual
    refine answered_eq_none send id (fun entry hentry heq => ?_) .nil object
    obtain ⟨relation, -, rfl⟩ := List.mem_map.mp hentry
    cases relation with
    | less => exact hless heq
    | lessEqual => exact hlessEqual heq
    | greater => exact hgreater heq
    | greaterEqual => exact hgreaterEqual heq
    | equal => exact hequal heq
    | notEqual => exact hnotEqual heq

/-- The arithmetic of integers. -/
lemma answered_integer (a : Int64) (verb : String) (object : Value) :
    answered send id
        [("+", .integerOp .add), ("-", .integerOp .sub), ("*", .integerOp .mul)]
        (.integer a) verb object
      = (Direct.arithmetic? (.integer a) verb object).map EvalM.ofExcept := by
  by_cases hadd : verb = "+"
  · subst hadd
    exact congrArg (fun answer => some (EvalM.ofExcept answer))
      (Operator.integer_eq .add a object)
  by_cases hsub : verb = "-"
  · subst hsub
    exact congrArg (fun answer => some (EvalM.ofExcept answer))
      (Operator.integer_eq .sub a object)
  by_cases hmul : verb = "*"
  · subst hmul
    exact congrArg (fun answer => some (EvalM.ofExcept answer))
      (Operator.integer_eq .mul a object)
  have hnone : Direct.arithmetic? (.integer a) verb object = none := by
    unfold Direct.arithmetic?
    split <;> simp_all
  rw [hnone]
  exact answered_eq_none send id (by simp [hadd, hsub, hmul]) _ _

/-- The arithmetic of floating-point numbers. -/
lemma answered_float (a : Float) (verb : String) (object : Value) :
    answered send id
        [("+", .floatOp .add), ("-", .floatOp .sub), ("*", .floatOp .mul), ("/", .floatOp .div)]
        (.float a) verb object
      = (Direct.arithmetic? (.float a) verb object).map EvalM.ofExcept := by
  by_cases hadd : verb = "+"
  · subst hadd
    exact congrArg (fun answer => some (EvalM.ofExcept answer)) (Operator.float_eq .add a object)
  by_cases hsub : verb = "-"
  · subst hsub
    exact congrArg (fun answer => some (EvalM.ofExcept answer)) (Operator.float_eq .sub a object)
  by_cases hmul : verb = "*"
  · subst hmul
    exact congrArg (fun answer => some (EvalM.ofExcept answer)) (Operator.float_eq .mul a object)
  by_cases hdiv : verb = "/"
  · subst hdiv
    exact congrArg (fun answer => some (EvalM.ofExcept answer)) (Operator.float_eq .div a object)
  have hnone : Direct.arithmetic? (.float a) verb object = none := by
    unfold Direct.arithmetic?
    split <;> simp_all
  rw [hnone]
  exact answered_eq_none send id (by simp [hadd, hsub, hmul, hdiv]) _ _

/-- The joining of strings. -/
lemma answered_string (a verb : String) (object : Value) :
    answered send id [("+", .concat)] (.string a) verb object
      = (Direct.arithmetic? (.string a) verb object).map EvalM.ofExcept := by
  by_cases hadd : verb = "+"
  · subst hadd
    exact congrArg (fun answer => some (EvalM.ofExcept answer)) (Operator.concat_eq a object)
  have hnone : Direct.arithmetic? (.string a) verb object = none := by
    unfold Direct.arithmetic?
    split <;> simp_all
  rw [hnone]
  exact answered_eq_none send id (by simp [hadd]) _ _

/-- The access to a map. -/
lemma answered_map (entries : List (String × Value)) (verb : String) (object : Value) :
    answered send id Tag.map.operators (.map entries) verb object
      = (Direct.access? (.map entries) verb object).map EvalM.ofExcept := by
  by_cases hentry : verb = "."
  · subst hentry
    cases object <;> rfl
  have hnone : Direct.access? (.map entries) verb object = none := by
    unfold Direct.access?
    split <;> simp_all
  rw [hnone]
  exact answered_eq_none send id (by simp [Tag.operators, hentry]) _ _

/-- **The tables agree.**  The operators that a prototype has for the type of a subject are those
of the tables, and they compute what the tables say. -/
lemma answered_operators (subject : Value) (verb : String) (object : Value) :
    answered send id subject.tag.operators subject verb object
      = (Direct.operator? subject verb object).map EvalM.ofExcept := by
  have hor : ∀ x y : Option (Except EvalError Value),
      (x.or y).map EvalM.ofExcept = (x.map EvalM.ofExcept).or (y.map EvalM.ofExcept) := by
    intro x y
    cases x <;> rfl
  rw [Direct.operator?, hor, hor]
  cases subject with
  | nil => exact (answered_nil send id verb object).trans (Option.or_none.symm)
  | integer a =>
      refine (answered_append send id _ _ _ _ _).trans ?_
      rw [answered_integer, answered_comparisons send id rfl]
      exact congrArg _ Option.or_none.symm
  | float a =>
      refine (answered_append send id _ _ _ _ _).trans ?_
      rw [answered_float, answered_comparisons send id rfl]
      exact congrArg _ Option.or_none.symm
  | string a =>
      refine (answered_append send id [("+", .concat)] (Tag.comparisons .string) _ _ _).trans ?_
      rw [answered_string, answered_comparisons send id rfl]
      exact congrArg _ Option.or_none.symm
  | map entries => exact answered_map send id entries verb object
  | _ => rfl

end Tables

/-! ## Evaluation and control -/

/-- The verb of evaluation is the first that a type has. -/
lemma Tag.reply?_eval (tag : Tag) : tag.reply? evalVerb = tag.evalReply? := by
  cases tag <;> rfl

lemma Tag.reply?_choose (tag : Tag) :
    tag.reply? "?" = if tag = .handler then none else some .choose := by
  cases tag <;> rfl

lemma Tag.reply?_and (tag : Tag) :
    tag.reply? "and" = if tag = .handler then none else some .conjunction := by
  cases tag <;> rfl

lemma Tag.reply?_or (tag : Tag) :
    tag.reply? "or" = if tag = .handler then none else some .alternative := by
  cases tag <;> rfl

/-- All other verbs are operators. -/
lemma Tag.reply?_operator (tag : Tag) {verb : String} (heval : verb ≠ "eval")
    (hchoose : verb ≠ "?") (hand : verb ≠ "and") (hor : verb ≠ "or") :
    tag.reply? verb = tag.operators.lookup verb := by
  cases hreply : tag.evalReply? with
  | none =>
      have hhandler : tag = .handler := by
        revert hreply
        cases tag <;> decide
      subst hhandler
      rfl
  | some reply =>
      have hcontrol : List.lookup verb [(evalVerb, reply), ("?", Reply.choose),
          ("and", Reply.conjunction), ("or", Reply.alternative)] = none := by
        simp [List.lookup_eq_none_iff, evalVerb, heval, hchoose, hand, hor]
      rw [Tag.reply?, Tag.replies?, hreply, Option.map_some, Option.bind_some,
        List.lookup_append, hcontrol, Option.none_or]

end Missive
