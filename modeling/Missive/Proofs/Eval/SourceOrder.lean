import Missive.Proofs.Eval.Closure
import Missive.Proofs.Eval.Refinement
import Missive.Proofs.Value.KeyOrder
import Mathlib

/-!
# Evaluation in source order

An evaluator for parse trees.  It goes through a program as it is written, from left to right, and
stops at the first error; expressions are what it computes with, since code that has not run is
still the expression that was written.  The order in which it visits the entries of a map is left
open.

* `SourceOrder.evaluation`: one clause for each kind of expression.
* `SourceOrder.faithful_within`: turning the program into a value first makes no difference, if the
  evaluator visits the entries that a map keeps, in the order of their keys.
* `run_settles_inKeyOrder`: hence a program comes to what this evaluator says about its tree.
* `not_inSourceOrder`: it does not if all entries are visited as they are written.
-/

namespace Missive

open Value (ofExpr)

namespace SourceOrder

/-! ## The evaluator -/

/-- What `it` and `that` stand for, if they stand for anything. -/
abbrev Scope := Option (Expr × Expr)

/-- The expression that a name stands for in a scope. -/
def Scope.find? : Scope → String → Option Expr
  | none, _ => none
  | some (it, that), name =>
    if name = "it" then some it else if name = "that" then some that else none

/-- What expressions come to in scopes. -/
abbrev Meaning := Scope → Expr → Option (Except EvalError Expr)

/-- The literal of a number, a string or nil. -/
def literal : Value → Expr
  | .integer value => .int value
  | .float value => .float value
  | .string value => .string value
  | _ => .nil

/-- What an operator answers with.  A map has for a key what is written last for it, and nil differs
from everything else; all other operators compute with numbers, strings and nil. -/
def operator? (subject : Expr) (verb : String) (object : Expr) :
    Option (Except EvalError Expr) :=
  match subject, verb, object with
  | .map entries, ".", .string key => some (.ok ((entries.reverse.lookup key).getD .nil))
  | .nil, "!=", object => some (.ok object)
  | subject, verb, object =>
    (Direct.operator? (ofExpr subject) verb (ofExpr object)).map (Except.map literal)

/-- What a message comes to.  What is evaluated again is evaluated where `it` is the subject and
`that` the operand. -/
def delivery (again : Meaning) (subject : Expr) (verb : String) (object : Expr) :
    Option (Except EvalError Expr) :=
  if verb = "eval" then again (some (subject, object)) subject
  else if verb = "?" then
    match object with
    | .pair left right =>
      again (some (subject, object)) (if (ofExpr subject).tag = .nil then right else left)
    | _ => some (.error (.mismatch .pair (ofExpr subject) (ofExpr object)))
  else if verb = "and" then
    if (ofExpr subject).tag = .nil then some (.ok .nil) else again (some (subject, object)) object
  else if verb = "or" then
    if (ofExpr subject).tag = .nil then again (some (subject, object)) object
    else some (.ok subject)
  else
    match operator? subject verb object with
    | some answer => some answer
    | none =>
      some (.error (.handlerNotFound (ofExpr subject).tag verb (ofExpr subject).render))

/-- What an expression comes to, given what those come to that are met on the way, and which entries
of a map are visited in which order.  Of several results for one key the last one is kept. -/
def evaluation (visit : List (String × Expr) → List (String × Expr)) (again : Meaning)
    (scope : Scope) (e : Expr) : Option (Except EvalError Expr) :=
  match e with
  | .nil | .int _ | .float _ | .string _ => some (.ok e)
  | .name text =>
    match scope.find? text with
    | some bound => some (.ok bound)
    | none => some (.error (.nameNotFound text))
  | .later body => some (.ok body)
  | .block items => items.foldlM (m := AnswerM) (fun _ item => again scope item) .nil
  | .array items =>
    bind (m := AnswerM) (items.mapM (m := AnswerM) (again scope)) fun items =>
    pure (.array items)
  | .map entries =>
    bind (m := AnswerM) ((visit entries).mapM (m := AnswerM) fun entry =>
      bind (m := AnswerM) (again scope entry.2) fun value =>
      pure (entry.1, value)) fun results =>
    pure (.map (lastOfEach results))
  | .pair left right =>
    bind (m := AnswerM) (again scope left) fun left =>
    bind (m := AnswerM) (again scope right) fun right =>
    pure (.pair left right)
  | .message verb object =>
    bind (m := AnswerM) (again scope object) fun object =>
    pure (.message verb object)
  | .send subject verb object =>
    bind (m := AnswerM) (again scope subject) fun subject =>
    bind (m := AnswerM) (again scope object) fun object =>
    delivery again subject verb object

/-- What expressions come to with fewer than a number of evaluations nested. -/
def within (visit : List (String × Expr) → List (String × Expr)) : Nat → Meaning
  | 0 => fun _ _ => none
  | depth + 1 => evaluation visit (within visit depth)

/-- The outcome of a program, given its answer, if one has been found. -/
def found : Option (Except EvalError Value) → Except (Halt Error) Value
  | some answer => (answer.mapError Error.eval).mapError .failed
  | none => .error .outOfFuel

/-- The outcome of a program with fewer than a number of evaluations nested. -/
def outcome (visit : List (String × Expr) → List (String × Expr)) (depth : Nat) (e : Expr) :
    Except (Halt Error) Value :=
  found ((within visit depth none e).map (Except.map ofExpr))

/-! ## Answers that go along -/

/-- Two answers of which the second is the first, changed by a function. -/
def Lowers {α β : Type} (f : α → β) (x : Option (Except EvalError α))
    (y : Option (Except EvalError β)) : Prop :=
  y = x.map (Except.map f)

namespace Lowers

variable {α β γ δ : Type} {f : α → β} {g : γ → δ}

lemma ok (a : α) : Lowers f (some (.ok a)) (some (.ok (f a))) := rfl

lemma error (e : EvalError) : Lowers f (some (.error e)) (some (.error e)) := rfl

/-- What holds of the first answer may be used for the rest. -/
lemma bind_answers {x : Option (Except EvalError α)} {y : Option (Except EvalError β)}
    {F : α → Option (Except EvalError γ)} {G : β → Option (Except EvalError δ)}
    {P : α → Prop} (hx : Lowers f x y) (hP : Answers x P)
    (hF : ∀ a, P a → Lowers g (F a) (G (f a))) :
    Lowers g (Bind.bind (m := AnswerM) x F) (Bind.bind (m := AnswerM) y G) := by
  obtain rfl := hx
  cases x with
  | none => rfl
  | some answer =>
      cases answer with
      | error error => rfl
      | ok a => exact hF a (hP a rfl)

lemma bind {x : Option (Except EvalError α)} {y : Option (Except EvalError β)}
    {F : α → Option (Except EvalError γ)} {G : β → Option (Except EvalError δ)}
    (hx : Lowers f x y) (hF : ∀ a, Lowers g (F a) (G (f a))) :
    Lowers g (Bind.bind (m := AnswerM) x F) (Bind.bind (m := AnswerM) y G) :=
  bind_answers (P := fun _ => True) hx (fun _ _ => trivial) fun a _ => hF a

lemma foldlM {F : α → γ → Option (Except EvalError α)} {G : β → δ → Option (Except EvalError β)}
    (hF : ∀ a c, Lowers f (F a c) (G (f a) (g c))) (items : List γ) :
    ∀ a, Lowers f (items.foldlM (m := AnswerM) F a)
      ((items.map g).foldlM (m := AnswerM) G (f a)) := by
  induction items with
  | nil => exact ok
  | cons item items ih =>
      intro a
      rw [List.map_cons, List.foldlM_cons, List.foldlM_cons]
      exact bind (hF a item) ih

lemma mapM {F : α → Option (Except EvalError γ)} {G : β → Option (Except EvalError δ)}
    (hF : ∀ a, Lowers g (F a) (G (f a))) (items : List α) :
    Lowers (List.map g) (items.mapM (m := AnswerM) F) ((items.map f).mapM (m := AnswerM) G) := by
  induction items with
  | nil => exact ok []
  | cons item items ih =>
      rw [List.map_cons, List.mapM_cons, List.mapM_cons]
      exact bind (hF item) fun c => bind ih fun cs => ok (c :: cs)

end Lowers

/-! ## Operators -/

lemma ofExpr_literal {value : Value} (h : value.Datum) : ofExpr (literal value) = value := by
  cases h <;> rfl

lemma eq_nil_of_ofExpr {e : Expr} (h : ofExpr e = .nil) : e = .nil := by
  cases e <;> simp_all [ofExpr, Value.ofEntries]

lemma exists_map_of_ofExpr {e : Expr} {entries : List (String × Value)}
    (h : ofExpr e = .map entries) : ∃ written, e = .map written := by
  cases e <;> simp_all [ofExpr]

lemma eq_string_of_ofExpr {e : Expr} {text : String} (h : ofExpr e = .string text) :
    e = .string text := by
  cases e <;> simp_all [ofExpr, Value.ofEntries]

/-- **Operators** answer alike. -/
lemma lowers_operator? (subject : Expr) (verb : String) (object : Expr) :
    Direct.operator? (ofExpr subject) verb (ofExpr object)
      = (operator? subject verb object).map (Except.map ofExpr) := by
  unfold operator?
  split
  · rename_i entries key
    rw [Value.ofExpr_map]
    simp only [ofExpr, Direct.operator?, Direct.arithmetic?, Direct.comparison?, Direct.access?,
      Option.none_or, Value.lookup_inKeyOrder, Option.map_some, Except.map]
    cases entries.reverse.lookup key <;> rfl
  · cases object <;> rfl
  · rename_i hnil hmap
    cases hanswer : Direct.operator? (ofExpr subject) verb (ofExpr object) with
    | none => rfl
    | some answer =>
        cases answer with
        | error error => rfl
        | ok result =>
            -- the two operators that answer with something else are the cases above
            rcases Direct.operator?_ok hanswer with
              hdatum | ⟨hsubject, hverb, -⟩ | ⟨entries, key, hsubject, hverb, hobject, -⟩
            · simp [Except.map, ofExpr_literal hdatum]
            · exact absurd hverb (hnil (eq_nil_of_ofExpr hsubject))
            · obtain ⟨written, hwritten⟩ := exists_map_of_ofExpr hsubject
              exact absurd (eq_string_of_ofExpr hobject) (hmap written key hwritten hverb)

/-! ## Programs as values -/

/-- The scope in which `it` and `that` stand for the values of what they stand for. -/
def Scope.lowered (scope : Scope) : Missive.Scope :=
  scope.map (Prod.map ofExpr ofExpr)

lemma find?_lowered (scope : Scope) (name : String) :
    scope.lowered.find? name = (scope.find? name).map ofExpr := by
  cases scope with
  | none => rfl
  | some bound =>
      simp only [Scope.lowered, Option.map_some, Prod.map, Missive.Scope.find?, Scope.find?]
      split_ifs <;> rfl

/-- An expression comes to what its value means. -/
def Faithful (again : Meaning) (again' : Direct.Meaning) : Prop :=
  ∀ scope e, Lowers ofExpr (again scope e) (again' scope.lowered (ofExpr e))

variable {again : Meaning} {again' : Direct.Meaning}

/-- **Messages.** -/
lemma Faithful.delivery (h : Faithful again again') (subject : Expr) (verb : String)
    (object : Expr) :
    Lowers ofExpr (delivery again subject verb object)
      (Direct.delivery again' (ofExpr subject) verb (ofExpr object)) := by
  have hsubject : (ofExpr subject).tag ≠ .handler := by
    cases subject <;> simp [ofExpr, Value.ofEntries, Value.tag]
  have hagain : ∀ e, Lowers ofExpr (again (some (subject, object)) e)
      (again' (some (ofExpr subject, ofExpr object)) (ofExpr e)) :=
    fun e => h (some (subject, object)) e
  unfold SourceOrder.delivery Direct.delivery
  rw [if_neg hsubject]
  split_ifs
  · exact hagain subject
  · cases object with
    | pair left right => exact hagain right
    | _ => exact .error _
  · cases object with
    | pair left right => exact hagain left
    | _ => exact .error _
  · exact .ok Expr.nil
  · exact hagain object
  · exact hagain object
  · exact .ok subject
  · rw [lowers_operator?]
    cases operator? subject verb object with
    | none => exact .error _
    | some answer => rfl

/-- **Expressions.**  The value of a map has its entries in the order in which they are visited. -/
lemma Faithful.evaluation (h : Faithful again again') :
    Faithful (evaluation inKeyOrder again) (Direct.evaluation again') := by
  intro scope e
  cases e with
  | nil => exact .ok Expr.nil
  | int value => exact .ok (Expr.int value)
  | float value => exact .ok (Expr.float value)
  | string value => exact .ok (Expr.string value)
  | name text =>
      simp only [SourceOrder.evaluation, ofExpr, Direct.evaluation, find?_lowered]
      cases scope.find? text with
      | none => exact .error _
      | some bound => exact .ok bound
  | later body => exact .ok body
  | block items =>
      rw [ofExpr, Value.ofItems_eq_map]
      exact .foldlM (fun _ item => h scope item) items Expr.nil
  | array items =>
      rw [ofExpr, Value.ofItems_eq_map]
      refine .bind (.mapM (h scope) items) fun results => ?_
      rw [← Value.ofItems_eq_map]
      exact .ok (Expr.array results)
  | map entries =>
      have hentry : ∀ entry : String × Expr, Lowers (Prod.map id ofExpr)
          (bind (m := AnswerM) (again scope entry.2) fun value => pure (entry.1, value))
          (bind (m := AnswerM) (again' scope.lowered (ofExpr entry.2)) fun value =>
            pure (entry.1, value)) :=
        fun entry => .bind (h scope entry.2) fun value => .ok (entry.1, value)
      have hanswers : ∀ entry ∈ inKeyOrder entries, Answers (again scope entry.2) fun _ => True :=
        fun _ _ _ _ => trivial
      rw [Value.ofExpr_map]
      refine .bind_answers (.mapM hentry _) (.entries hanswers) fun results hresults => ?_
      -- the results have the keys of the entries that were visited, so none of them is replaced
      have hascending : (results.map Prod.fst).Pairwise (· < ·) :=
        hresults.1 ▸ Value.pairwise_inKeyOrder entries
      have hvalue : ofExpr (.map results) = .map (results.map (Prod.map id ofExpr)) := by
        rw [Value.ofExpr_map, inKeyOrder_of_pairwise hascending]
      rw [lastOfEach_of_nodup (hascending.imp ne_of_lt), ← hvalue]
      exact .ok (Expr.map results)
  | pair left right =>
      exact .bind (h scope left) fun left => .bind (h scope right) fun right =>
        .ok (Expr.pair left right)
  | message verb object => exact .bind (h scope object) fun object => .ok (Expr.message verb object)
  | send subject verb object =>
      exact .bind (h scope subject) fun subject => .bind (h scope object) fun object =>
        h.delivery subject verb object

/-- **Evaluations to any depth.** -/
lemma faithful_within (depth : Nat) : Faithful (within inKeyOrder depth) (Direct.within depth) := by
  induction depth with
  | zero => exact fun _ _ => rfl
  | succ depth ih => exact ih.evaluation

/-- The evaluator comes to what the value of the program means. -/
lemma settles_outcome (e : Expr) :
    Settles (fun depth => outcome inKeyOrder depth e)
      ((interpret none (ofExpr e)).map fun answer => answer.mapError .eval) := by
  have houtcome : ∀ depth,
      outcome inKeyOrder depth e = found (Direct.within depth none (ofExpr e)) :=
    fun depth => congrArg found (faithful_within depth none e).symm
  cases hanswer : interpret none (ofExpr e) with
  | none =>
      intro depth
      refine (houtcome depth).trans ?_
      cases hwithin : Direct.within depth none (ofExpr e) with
      | none => rfl
      | some answer =>
          rw [(approaches_interpret none _).sound hwithin] at hanswer
          cases hanswer
  | some answer =>
      obtain ⟨enough, hwithin⟩ := (approaches_interpret none _).complete hanswer
      refine ⟨enough, fun depth hdepth => (houtcome depth).trans ?_⟩
      rw [hwithin depth hdepth]
      rfl

end SourceOrder

/-! ## Programs -/

/-- **Source order.**  A program that parses to a tree comes to what the evaluator in source order
says about the tree, where of the entries of a map those are visited that no later entry replaces,
in the order of their keys. -/
theorem run_settles_inKeyOrder {source : String} {e : Expr} (h : parse source = .ok e) :
    ∃ result, Settles (fun fuel => run fuel source) result ∧
      Settles (fun depth => SourceOrder.outcome inKeyOrder depth e) result :=
  ⟨_, run_settles h, SourceOrder.settles_outcome e⟩

/-- A program with a map whose entries are not written in the order of their keys. -/
def unorderedSource : String :=
  "#\x7b\"b\": x, \"a\": y\x7d"

/-- A program with a map of which an entry is replaced by a later one. -/
def repeatedSource : String :=
  "#\x7b\"a\": x, \"a\": 1\x7d"

lemma parse_unorderedSource :
    parse unorderedSource = .ok (.map [("b", .name "x"), ("a", .name "y")]) := by
  cbv

lemma parse_repeatedSource :
    parse repeatedSource = .ok (.map [("a", .name "x"), ("a", .int 1)]) := by
  cbv

/-- What is found at all depths from two on is what the evaluator comes to. -/
lemma settles_of_outcome {visit : List (String × Expr) → List (String × Expr)} {e : Expr}
    {answer : Except Error Value}
    (h : ∀ depth, SourceOrder.outcome visit (depth + 2) e = answer.mapError .failed) :
    Settles (fun depth => SourceOrder.outcome visit depth e) (some answer) := by
  refine ⟨2, fun depth hdepth => ?_⟩
  obtain ⟨depth, rfl⟩ := Nat.exists_eq_add_of_le' hdepth
  exact h depth

/-- In the order of the keys the first entry of the first program is the one that is written
last. -/
lemma settles_unorderedSource :
    Settles
      (fun depth =>
        SourceOrder.outcome inKeyOrder depth (.map [("b", .name "x"), ("a", .name "y")]))
      (some (.error (.eval (.nameNotFound "y")))) :=
  settles_of_outcome fun _ => rfl

/-- The first program fails at that entry. -/
theorem run_settles_unorderedSource : ∃ e, parse unorderedSource = .ok e ∧
    Settles (fun fuel => run fuel unorderedSource) (some (.error (.eval (.nameNotFound "y")))) ∧
      Settles (fun depth => SourceOrder.outcome inKeyOrder depth e)
        (some (.error (.eval (.nameNotFound "y")))) := by
  obtain ⟨result, hrun, houtcome⟩ := run_settles_inKeyOrder parse_unorderedSource
  obtain rfl := houtcome.unique settles_unorderedSource
  exact ⟨_, parse_unorderedSource, hrun, houtcome⟩

/-- A program comes to what the evaluator says that visits all entries of maps as they are
written. -/
def InSourceOrder (source : String) : Prop :=
  ∀ e, parse source = .ok e →
    ∃ result, Settles (fun fuel => run fuel source) result ∧
      Settles (fun depth => SourceOrder.outcome id depth e) result

/-- In source order a program comes to the same as in the order of the keys. -/
lemma InSourceOrder.unique {source : String} {e : Expr} {kept written : Option (Except Error Value)}
    (h : InSourceOrder source) (hparse : parse source = .ok e)
    (hkept : Settles (fun depth => SourceOrder.outcome inKeyOrder depth e) kept)
    (hwritten : Settles (fun depth => SourceOrder.outcome id depth e) written) :
    kept = written := by
  obtain ⟨result, hrun, hresult⟩ := h e hparse
  calc kept = _ := hkept.unique (SourceOrder.settles_outcome e)
    _ = result := (run_settles hparse).unique hrun
    _ = written := hresult.unique hwritten

/-- The first program fails at `y` and not at `x`, which is written first; the second one does not
fail, though the entry that is replaced would. -/
theorem not_inSourceOrder : ¬ InSourceOrder unorderedSource ∧ ¬ InSourceOrder repeatedSource := by
  have hfails : ∀ key rest, Settles
      (fun depth => SourceOrder.outcome id depth (.map ((key, .name "x") :: rest)))
      (some (.error (.eval (.nameNotFound "x")))) :=
    fun _ _ => settles_of_outcome fun _ => rfl
  have hreplaced : Settles
      (fun depth => SourceOrder.outcome inKeyOrder depth (.map [("a", .name "x"), ("a", .int 1)]))
      (some (.ok (.map [("a", .integer 1)]))) :=
    settles_of_outcome fun _ => rfl
  constructor
  · intro h
    have hsame := h.unique parse_unorderedSource settles_unorderedSource (hfails _ _)
    simp at hsame
  · intro h
    have hsame := h.unique parse_repeatedSource hreplaced (hfails _ _)
    simp at hsame

end Missive
