import Mathlib.Tactic.Lemma
import Mathlib.Tactic.SplitIfs
import Missive.Eval.Basic

/-!
# A direct interpreter

The meaning of values without frames, prototypes and handlers.  All that is left of the frames is
the `Scope`: outside of any send nothing is bound, and inside a send `it` and `that` are.

* `Direct.evaluation` says what a value means in a scope, one clause for each type of value, given
  the meaning of the values that are met on the way.
* `Direct.delivery` says what a message means.  Evaluation and control go back to values;
  arithmetic, comparison and map access are the tables `Direct.arithmetic?`,
  `Direct.comparison?` and `Direct.access?`.
* `interpret` is the least fixed point of `Direct.evaluation` (`interpret_eq`,
  `interpret_induction`), and `deliver` goes with it.

Neither has fuel.  The answer is `none` for a program that never returns, and otherwise the value
or the error that it returns; the parts of a value are interpreted from left to right up to the
first error, which is what `bind` in `AnswerM` says.
-/

namespace Missive

/-- What `it` and `that` stand for, if they stand for anything. -/
abbrev Scope := Option (Value × Value)

/-- The value of a name in a scope. -/
def Scope.find? : Scope → String → Option Value
  | none, _ => none
  | some (it, that), name =>
    if name = "it" then some it else if name = "that" then some that else none

/-- Answers in turn, up to the first error. -/
abbrev AnswerM := ExceptT EvalError Option

namespace Direct

/-! ## The tables of operators -/

/-- Two integers make an integer, modulo 2^64. -/
def integers (op : Int → Int → Int) (a : Int64) : Value → Except EvalError Value
  | .integer b => .ok (.integer (Int64.ofInt (op a.toInt b.toInt)))
  | object => .error (.typeMismatch .integer .integer object.tag)

/-- Two floating-point numbers make one. -/
def floats (op : Float → Float → Float) (a : Float) : Value → Except EvalError Value
  | .float b => .ok (.float (op a b))
  | object => .error (.typeMismatch .float .float object.tag)

/-- Two strings are joined. -/
def strings (a : String) : Value → Except EvalError Value
  | .string b => .ok (.string (a ++ b))
  | object => .error (.typeMismatch .string .string object.tag)

/-- The arithmetic of integers, floating-point numbers and strings. -/
def arithmetic? (subject : Value) (verb : String) (object : Value) :
    Option (Except EvalError Value) :=
  match subject, verb with
  | .integer a, "+" => some (integers (· + ·) a object)
  | .integer a, "-" => some (integers (· - ·) a object)
  | .integer a, "*" => some (integers (· * ·) a object)
  | .float a, "+" => some (floats (· + ·) a object)
  | .float a, "-" => some (floats (· - ·) a object)
  | .float a, "*" => some (floats (· * ·) a object)
  | .float a, "/" => some (floats (· / ·) a object)
  | .string a, "+" => some (strings a object)
  | _, _ => none

/-- The order of two values of one type.  Nothing else is in order, and neither are numbers of
which one is not a number. -/
def order : Value → Value → Option Ordering
  | .integer a, .integer b => some (compare a.toInt b.toInt)
  | .float a, .float b =>
    if a < b then some .lt else if a == b then some .eq else if b < a then some .gt else none
  | .string a, .string b => some (if a < b then .lt else if a = b then .eq else .gt)
  | _, _ => none

/-- When the comparison under a verb holds.  Two values in no order are unequal, and no other
comparison holds of them. -/
def test? : String → Option (Option Ordering → Bool)
  | "<" => some fun order => order == some .lt
  | "<=" => some fun order => order == some .lt || order == some .eq
  | ">" => some fun order => order == some .gt
  | ">=" => some fun order => order == some .gt || order == some .eq
  | "=" => some fun order => order == some .eq
  | "!=" => some fun order => order != some .eq
  | _ => none

/-- The comparison of a value with another one of its type or with nil.  The subject stands for
true and nil for false. -/
def compared (test : Option Ordering → Bool) (subject object : Value) : Except EvalError Value :=
  if object.tag = subject.tag ∨ object.tag = .nil then
    .ok (if test (order subject object) then subject else .nil)
  else .error (.typeMismatch subject.tag subject.tag object.tag)

/-- The comparison of nil with anything.  An answer that is true is one if the operand is nil, and
otherwise the operand. -/
def comparedNil? (verb : String) (object : Value) : Option Value :=
  match verb with
  | "<" | "<=" | ">" | ">=" => some .nil
  | "=" => some (if object.tag = .nil then .integer 1 else .nil)
  | "!=" => some (if object.tag = .nil then .nil else object)
  | _ => none

/-- The comparisons of nil, integers, floating-point numbers and strings. -/
def comparison? (subject : Value) (verb : String) (object : Value) :
    Option (Except EvalError Value) :=
  match subject with
  | .nil => (comparedNil? verb object).map .ok
  | .integer _ | .float _ | .string _ => (test? verb).map fun test => compared test subject object
  | _ => none

/-- The value that a map has for a key, or nil. -/
def access? (subject : Value) (verb : String) (object : Value) :
    Option (Except EvalError Value) :=
  match subject, verb, object with
  | .map entries, ".", .string key => some (.ok ((entries.lookup key).getD .nil))
  | .map _, ".", _ => some (.error (.typeMismatch .string .map object.tag))
  | _, _, _ => none

/-- What the tables say about a subject, a verb and an operand, if they have the verb for the type
of the subject. -/
def operator? (subject : Value) (verb : String) (object : Value) :
    Option (Except EvalError Value) :=
  (arithmetic? subject verb object).or
    ((comparison? subject verb object).or (access? subject verb object))

/-! ## The clauses -/

/-- What values mean in scopes. -/
abbrev Meaning := Scope → Value → Option (Except EvalError Value)

/-- The meaning of a message to a subject, given that of values.  What is evaluated again is
evaluated where `it` is the subject and `that` the operand. -/
def delivery (again : Meaning) (subject : Value) (verb : String) (object : Value) :
    Option (Except EvalError Value) :=
  if subject.tag = .handler then some (.error (.handlerNotFound .handler verb "Handler"))
  else if verb = "eval" then again (some (subject, object)) subject
  else if verb = "?" then
    match object with
    | .pair left right =>
      again (some (subject, object)) (if subject.tag = .nil then right else left)
    | _ => some (.error (.typeMismatch .pair subject.tag object.tag))
  else if verb = "and" then
    if subject.tag = .nil then some (.ok .nil) else again (some (subject, object)) object
  else if verb = "or" then
    if subject.tag = .nil then again (some (subject, object)) object else some (.ok subject)
  else
    match operator? subject verb object with
    | some answer => some answer
    | none => some (.error (.handlerNotFound subject.tag verb subject.render))

/-- The meaning of a value in a scope, given that of the values that are met on the way. -/
def evaluation (again : Meaning) (scope : Scope) (value : Value) :
    Option (Except EvalError Value) :=
  match value with
  | .nil | .integer _ | .float _ | .string _ => some (.ok value)
  | .name text =>
    match scope.find? text with
    | some bound => some (.ok bound)
    | none => some (.error (.nameNotFound text))
  | .later body => some (.ok body)
  | .block items => items.foldlM (m := AnswerM) (fun _ item => again scope item) .nil
  | .array items =>
    bind (m := AnswerM) (items.mapM (m := AnswerM) (again scope)) fun items =>
    pure (.array items)
  | .map entries =>
    bind (m := AnswerM) (entries.mapM (m := AnswerM) fun entry =>
      bind (m := AnswerM) (again scope entry.2) fun value =>
      pure (entry.1, value)) fun entries =>
    pure (.map entries)
  | .pair left right =>
    bind (m := AnswerM) (again scope left) fun left =>
    bind (m := AnswerM) (again scope right) fun right =>
    pure (.pair left right)
  | .message verb object =>
    bind (m := AnswerM) (again scope object) fun object =>
    pure (.message verb object)
  | .send subject verb object =>
    bind (m := AnswerM) (again scope subject) fun subject =>
    bind (m := AnswerM) (again scope object) fun object =>
    delivery again subject verb object
  | .handler _ => some (.error (.handlerNotFound .handler "eval" "Handler"))

/-- What values mean as far as it is found with fewer than a number of evaluations nested. -/
def within : Nat → Meaning
  | 0 => fun _ _ => none
  | depth + 1 => evaluation (within depth)

end Direct

/-! ## The interpreter -/

open Classical in
/-- The meaning of a value in a scope: what is found at any depth. -/
noncomputable def interpret (scope : Scope) (value : Value) : Option (Except EvalError Value) :=
  if h : ∃ depth result, Direct.within depth scope value = some result then
    some h.choose_spec.choose
  else none

/-- The meaning of a message to a subject. -/
noncomputable def deliver (subject : Value) (verb : String) (object : Value) :
    Option (Except EvalError Value) :=
  Direct.delivery interpret subject verb object

/-! ## The interpreter is a fixed point -/

/-- From some depth on a computation gives the answer if there is one, and it never gives
another. -/
structure Approaches {α : Type} (x : Nat → Option (Except EvalError α))
    (answer : Option (Except EvalError α)) : Prop where
  sound {depth : Nat} {result : Except EvalError α} : x depth = some result → answer = some result
  complete {result : Except EvalError α} : answer = some result →
    ∃ enough, ∀ depth, enough ≤ depth → x depth = some result

namespace Approaches

variable {α β : Type}

lemma const (answer : Option (Except EvalError α)) : Approaches (fun _ => answer) answer :=
  ⟨id, fun h => ⟨0, fun _ _ => h⟩⟩

lemma unique {x : Nat → Option (Except EvalError α)} {answer answer' : Option (Except EvalError α)}
    (h : Approaches x answer) (h' : Approaches x answer') : answer = answer' := by
  ext result
  constructor
  · intro hresult
    obtain ⟨enough, hx⟩ := h.complete hresult
    exact h'.sound (hx enough (Nat.le_refl _))
  · intro hresult
    obtain ⟨enough, hx⟩ := h'.complete hresult
    exact h.sound (hx enough (Nat.le_refl _))

lemma succ {x : Nat → Option (Except EvalError α)} {answer : Option (Except EvalError α)}
    (h : Approaches x answer) : Approaches (fun depth => x (depth + 1)) answer := by
  refine ⟨h.sound, fun hresult => ?_⟩
  obtain ⟨enough, hx⟩ := h.complete hresult
  exact ⟨enough, fun depth hdepth => hx (depth + 1) (Nat.le_succ_of_le hdepth)⟩

lemma bind {x : Nat → Option (Except EvalError α)} {answer : Option (Except EvalError α)}
    {f : Nat → α → Option (Except EvalError β)} {g : α → Option (Except EvalError β)}
    (hx : Approaches x answer) (hf : ∀ a, Approaches (fun depth => f depth a) (g a)) :
    Approaches (fun depth => Bind.bind (m := AnswerM) (x depth) (f depth))
      (Bind.bind (m := AnswerM) answer g) := by
  constructor
  · intro depth result hresult
    cases hanswer : x depth with
    | none =>
        rw [hanswer] at hresult
        cases hresult
    | some first =>
        rw [hanswer] at hresult
        rw [hx.sound hanswer]
        cases first with
        | error error => exact hresult
        | ok a => exact (hf a).sound hresult
  · intro result hresult
    cases hanswer : answer with
    | none =>
        rw [hanswer] at hresult
        cases hresult
    | some first =>
        rw [hanswer] at hresult
        obtain ⟨enough, hx⟩ := hx.complete hanswer
        cases first with
        | error error =>
            refine ⟨enough, fun depth hdepth => ?_⟩
            rw [hx depth hdepth]
            exact hresult
        | ok a =>
            obtain ⟨enough', hf⟩ := (hf a).complete hresult
            refine ⟨max enough enough', fun depth hdepth => ?_⟩
            rw [hx depth (by omega)]
            exact hf depth (by omega)

lemma foldlM {f : Nat → β → α → Option (Except EvalError β)}
    {g : β → α → Option (Except EvalError β)}
    (hf : ∀ b a, Approaches (fun depth => f depth b a) (g b a)) (items : List α) :
    ∀ b, Approaches (fun depth => items.foldlM (m := AnswerM) (f depth) b)
      (items.foldlM (m := AnswerM) g b) := by
  induction items with
  | nil => exact fun b => const _
  | cons item items ih =>
      intro b
      simp only [List.foldlM_cons]
      exact bind (hf b item) ih

lemma mapM {f : Nat → α → Option (Except EvalError β)} {g : α → Option (Except EvalError β)}
    (hf : ∀ a, Approaches (fun depth => f depth a) (g a)) (items : List α) :
    Approaches (fun depth => items.mapM (m := AnswerM) (f depth))
      (items.mapM (m := AnswerM) g) := by
  induction items with
  | nil => exact const _
  | cons item items ih =>
      simp only [List.mapM_cons]
      exact bind (hf item) fun b => bind ih fun bs => const _

end Approaches

namespace Direct

/-- The clauses are continuous: they make no more of a meaning than of what approaches it. -/
lemma approaches_delivery {again : Nat → Meaning} {meaning : Meaning}
    (h : ∀ scope value, Approaches (fun depth => again depth scope value) (meaning scope value))
    (subject : Value) (verb : String) (object : Value) :
    Approaches (fun depth => delivery (again depth) subject verb object)
      (delivery meaning subject verb object) := by
  have hchoose : ∀ side : Value → Value → Value,
      Approaches
        (fun depth => match object with
          | .pair left right => again depth (some (subject, object)) (side left right)
          | _ => some (.error (.typeMismatch .pair subject.tag object.tag)))
        (match object with
        | .pair left right => meaning (some (subject, object)) (side left right)
        | _ => some (.error (.typeMismatch .pair subject.tag object.tag))) := by
    intro side
    cases object with
    | pair left right => exact h _ _
    | _ => exact .const _
  unfold delivery
  split_ifs
  · exact .const _
  · exact h _ _
  · exact hchoose fun _ right => right
  · exact hchoose fun left _ => left
  · exact .const _
  · exact h _ _
  · exact h _ _
  · exact .const _
  · exact .const _

lemma approaches_evaluation {again : Nat → Meaning} {meaning : Meaning}
    (h : ∀ scope value, Approaches (fun depth => again depth scope value) (meaning scope value))
    (scope : Scope) (value : Value) :
    Approaches (fun depth => evaluation (again depth) scope value)
      (evaluation meaning scope value) := by
  cases value with
  | block items => exact .foldlM (fun _ item => h scope item) items .nil
  | array items => exact .bind (.mapM (h scope) items) fun items => .const _
  | map entries =>
      refine .bind (.mapM (fun entry => ?_) entries) fun entries => .const _
      exact .bind (h scope entry.2) fun value => .const _
  | pair left right =>
      exact .bind (h scope left) fun left => .bind (h scope right) fun right => .const _
  | message verb object => exact .bind (h scope object) fun object => .const _
  | send subject verb object =>
      exact .bind (h scope subject) fun subject => .bind (h scope object) fun object =>
        approaches_delivery h subject verb object
  | nil | integer _ | float _ | string _ | name _ | later _ | handler _ => exact .const _

/-- The more values mean, the more the clauses make of them. -/
lemma evaluation_mono {again meaning : Meaning}
    (h : ∀ scope value result, again scope value = some result → meaning scope value = some result)
    {scope : Scope} {value : Value} {result : Except EvalError Value}
    (hresult : evaluation again scope value = some result) :
    evaluation meaning scope value = some result := by
  -- the one meaning and then always the other is a family that approaches the other
  have hfamily : ∀ scope value, Approaches
      (fun depth => (if depth = 0 then again else meaning) scope value) (meaning scope value) := by
    intro scope value
    constructor
    · intro depth result hresult
      by_cases hdepth : depth = 0
      · rw [if_pos hdepth] at hresult
        exact h scope value result hresult
      · rwa [if_neg hdepth] at hresult
    · intro result hresult
      refine ⟨1, fun depth hdepth => ?_⟩
      rwa [if_neg (Nat.ne_of_gt hdepth)]
  have hzero : evaluation (if 0 = 0 then again else meaning) scope value = some result := by
    rwa [if_pos rfl]
  exact (approaches_evaluation hfamily scope value).sound hzero

lemma within_succ {depth : Nat} {scope : Scope} {value : Value} {result : Except EvalError Value}
    (h : within depth scope value = some result) :
    within (depth + 1) scope value = some result := by
  induction depth generalizing scope value result with
  | zero => cases h
  | succ depth ih => exact evaluation_mono (fun scope value result => ih) h

lemma within_mono {depth depth' : Nat} (hdepth : depth ≤ depth') {scope : Scope} {value : Value}
    {result : Except EvalError Value} (h : within depth scope value = some result) :
    within depth' scope value = some result := by
  induction hdepth with
  | refl => exact h
  | step _ ih => exact within_succ ih

end Direct

/-- What the interpreter says is found at some depth. -/
lemma approaches_interpret (scope : Scope) (value : Value) :
    Approaches (fun depth => Direct.within depth scope value) (interpret scope value) := by
  have hunique : ∀ {depth depth' result result'}, Direct.within depth scope value = some result →
      Direct.within depth' scope value = some result' → result = result' := by
    intro depth depth' result result' h h'
    have hmax := Direct.within_mono (Nat.le_max_left depth depth') h
    rw [Direct.within_mono (Nat.le_max_right depth depth') h'] at hmax
    exact (Option.some.inj hmax).symm
  constructor
  · intro depth result hresult
    have hexists : ∃ depth result, Direct.within depth scope value = some result :=
      ⟨depth, result, hresult⟩
    rw [interpret, dif_pos hexists]
    exact congrArg some (hunique hexists.choose_spec.choose_spec hresult)
  · intro result hresult
    unfold interpret at hresult
    split_ifs at hresult with hexists
    cases hresult
    exact ⟨_, fun depth hdepth => Direct.within_mono hdepth hexists.choose_spec.choose_spec⟩

/-- **A fixed point.**  The clauses hold of the interpreter. -/
theorem interpret_eq (scope : Scope) (value : Value) :
    interpret scope value = Direct.evaluation interpret scope value :=
  (approaches_interpret scope value).succ.unique
    (Direct.approaches_evaluation approaches_interpret scope value)

/-- **The least fixed point.**  What the clauses preserve holds of all that the interpreter says. -/
theorem interpret_induction (P : Scope → Value → Except EvalError Value → Prop)
    (hstep : ∀ again : Direct.Meaning,
      (∀ scope value result, again scope value = some result → P scope value result) →
      ∀ scope value result, Direct.evaluation again scope value = some result →
        P scope value result)
    {scope : Scope} {value : Value} {result : Except EvalError Value}
    (h : interpret scope value = some result) : P scope value result := by
  obtain ⟨enough, hwithin⟩ := (approaches_interpret scope value).complete h
  have hall : ∀ depth scope value result, Direct.within depth scope value = some result →
      P scope value result := by
    intro depth
    induction depth with
    | zero =>
        intro scope value result hnone
        cases hnone
    | succ depth ih => exact hstep (Direct.within depth) ih
  exact hall enough scope value result (hwithin enough (Nat.le_refl _))

/-! ## Sends and control -/

/-- A send delivers what its operand means to what its subject means. -/
lemma interpret_send {scope : Scope} {subject object subject' object' : Value}
    (hsubject : interpret scope subject = some (.ok subject'))
    (hobject : interpret scope object = some (.ok object')) (verb : String) :
    interpret scope (.send subject verb object) = deliver subject' verb object' := by
  rw [interpret_eq, Direct.evaluation, hsubject, hobject]
  rfl

lemma interpret_later (scope : Scope) (body : Value) :
    interpret scope (.later body) = some (.ok body) := by
  rw [interpret_eq]
  rfl

section Control

variable {subject : Value} (hkind : subject.tag ≠ .handler)

include hkind

/-- A choice evaluates one side of its operand once more. -/
lemma deliver_choose (left right : Value) :
    deliver subject "?" (.pair left right)
      = interpret (some (subject, .pair left right)) (if subject.isNil then right else left) := by
  simp only [deliver, Direct.delivery, hkind, if_false]
  cases subject <;> rfl

lemma deliver_and (object : Value) :
    deliver subject "and" object
      = if subject.isNil then some (.ok .nil) else interpret (some (subject, object)) object := by
  simp only [deliver, Direct.delivery, hkind, if_false]
  cases subject <;> rfl

lemma deliver_or (object : Value) :
    deliver subject "or" object
      = if subject.isNil then interpret (some (subject, object)) object
        else some (.ok subject) := by
  simp only [deliver, Direct.delivery, hkind, if_false]
  cases subject <;> rfl

end Control

end Missive
