import Missive.Proofs.Eval.Provenance

/-!
# How programs fail

Handlers check the types of their subjects and of their operands, but a program can get only some of
these checks to fail, since values find the handlers of their own types.  What is left are mistakes
in the program: a name that stands for nothing, a verb that a type does not have, or an operand of a
wrong type.

* `Fails`: what holds of the error of a computation, with a lemma for each way in which computations
  are put together.
* `Direct.operator?_error`: the errors of operators.
* `Meaningful`: the errors that are mistakes in a program.
* `meaningful_of_interpret`: the interpreter fails in no other way.
-/

namespace Missive

open Value (Everywhere Occurs Traced)

/-! ## Errors of computations -/

/-- What holds of the error of a computation, if it has one. -/
def Fails {α : Type} (x : Option (Except EvalError α)) (P : EvalError → Prop) : Prop :=
  ∀ error, x = some (.error error) → P error

namespace Fails

variable {α β : Type} {P : EvalError → Prop}

lemma ok (a : α) : Fails (some (.ok a)) P := by
  intro error herror
  cases herror

lemma error {e : EvalError} (he : P e) : Fails (some (.error e : Except EvalError α)) P := by
  intro error herror
  cases herror
  exact he

lemma bind {x : Option (Except EvalError α)} {f : α → Option (Except EvalError β)} {Q : α → Prop}
    (hx : Fails x P) (hanswers : Answers x Q) (hf : ∀ a, Q a → Fails (f a) P) :
    Fails (Bind.bind (m := AnswerM) x f) P := by
  intro error herror
  cases x with
  | none => cases herror
  | some result =>
      cases result with
      | error first =>
          obtain rfl : first = error := by
            cases herror
            rfl
          exact hx first rfl
      | ok a => exact hf a (hanswers a rfl) error herror

/-- The computation that follows may fail after any answer. -/
lemma bind_any {x : Option (Except EvalError α)} {f : α → Option (Except EvalError β)}
    (hx : Fails x P) (hf : ∀ a, Fails (f a) P) : Fails (Bind.bind (m := AnswerM) x f) P :=
  hx.bind (Q := fun _ => True) (fun _ _ => trivial) fun a _ => hf a

lemma foldlM {f : β → α → Option (Except EvalError β)} {items : List α}
    (hf : ∀ b, ∀ a ∈ items, Fails (f b a) P) :
    ∀ b, Fails (items.foldlM (m := AnswerM) f b) P := by
  induction items with
  | nil => exact ok
  | cons item items ih =>
      intro b
      rw [List.foldlM_cons]
      exact (hf b item List.mem_cons_self).bind_any
        (ih fun b a ha => hf b a (List.mem_cons_of_mem _ ha))

lemma mapM {f : α → Option (Except EvalError β)} {items : List α}
    (hf : ∀ a ∈ items, Fails (f a) P) : Fails (items.mapM (m := AnswerM) f) P := by
  induction items with
  | nil => exact ok []
  | cons item items ih =>
      rw [List.mapM_cons]
      refine (hf item List.mem_cons_self).bind_any fun b => ?_
      refine (ih fun a ha => hf a (List.mem_cons_of_mem _ ha)).bind_any fun bs => ?_
      exact ok (b :: bs)

end Fails

/-! ## Errors of operators -/

namespace Direct

variable {subject object : Value} {verb : String} {error : EvalError}

/-- Arithmetic and comparison want an operand of the type of the subject. -/
def WantsOperand (error : EvalError) : Prop :=
  ∃ type right, type ∈ [Tag.integer, Tag.float, Tag.string] ∧ right ≠ type ∧
    error = .typeMismatch type type right

lemma arithmetic?_error (h : arithmetic? subject verb object = some (.error error)) :
    WantsOperand error := by
  have hintegers : ∀ {op a}, integers op a object = .error error → WantsOperand error := by
    intro op a h
    unfold integers at h
    split at h <;> cases h
    rename_i hinteger
    refine ⟨.integer, object.tag, by simp, fun htag => ?_, rfl⟩
    cases object <;> cases htag
    exact hinteger _ rfl
  have hfloats : ∀ {op a}, floats op a object = .error error → WantsOperand error := by
    intro op a h
    unfold floats at h
    split at h <;> cases h
    rename_i hfloat
    refine ⟨.float, object.tag, by simp, fun htag => ?_, rfl⟩
    cases object <;> cases htag
    exact hfloat _ rfl
  have hstrings : ∀ {a}, strings a object = .error error → WantsOperand error := by
    intro a h
    unfold strings at h
    split at h <;> cases h
    rename_i hstring
    refine ⟨.string, object.tag, by simp, fun htag => ?_, rfl⟩
    cases object <;> cases htag
    exact hstring _ rfl
  unfold arithmetic? at h
  split at h
  · exact hintegers (Option.some.inj h)
  · exact hintegers (Option.some.inj h)
  · exact hintegers (Option.some.inj h)
  · exact hfloats (Option.some.inj h)
  · exact hfloats (Option.some.inj h)
  · exact hfloats (Option.some.inj h)
  · exact hfloats (Option.some.inj h)
  · exact hstrings (Option.some.inj h)
  · cases h

lemma comparison?_error (h : comparison? subject verb object = some (.error error)) :
    WantsOperand error := by
  have hcompared : ∀ {test}, subject.tag ∈ [Tag.integer, .float, .string] →
      compared test subject object = .error error → WantsOperand error := by
    intro test hsubject h
    unfold compared at h
    split_ifs at h with htags
    cases h
    exact ⟨subject.tag, object.tag, hsubject, fun htag => htags (.inl htag), rfl⟩
  unfold comparison? at h
  split at h
  · obtain ⟨value, -, hvalue⟩ := Option.map_eq_some_iff.1 h
    cases hvalue
  · obtain ⟨test, -, hresult⟩ := Option.map_eq_some_iff.1 h
    exact hcompared (by simp [Value.tag]) hresult
  · obtain ⟨test, -, hresult⟩ := Option.map_eq_some_iff.1 h
    exact hcompared (by simp [Value.tag]) hresult
  · obtain ⟨test, -, hresult⟩ := Option.map_eq_some_iff.1 h
    exact hcompared (by simp [Value.tag]) hresult
  · cases h

lemma access?_error (h : access? subject verb object = some (.error error)) :
    ∃ right, right ≠ Tag.string ∧ error = .typeMismatch .string .map right := by
  unfold access? at h
  split at h <;> cases h
  rename_i hstring
  refine ⟨object.tag, fun htag => ?_, rfl⟩
  cases object <;> cases htag
  exact hstring _ rfl

/-- **The errors of operators** are about the operand. -/
lemma operator?_error (h : operator? subject verb object = some (.error error)) :
    WantsOperand error ∨
      ∃ right, right ≠ Tag.string ∧ error = .typeMismatch .string .map right := by
  rw [operator?, Option.or_eq_some_iff, Option.or_eq_some_iff] at h
  rcases h with h | ⟨-, h | ⟨-, h⟩⟩
  · exact .inl (arithmetic?_error h)
  · exact .inl (comparison?_error h)
  · exact .inr (access?_error h)

/-- A verb that is no operator of a type, and neither evaluation nor control, has no reply. -/
lemma reply?_of_operator?_eq_none (heval : verb ≠ "eval") (hchoose : verb ≠ "?")
    (hand : verb ≠ "and") (hor : verb ≠ "or") (h : operator? subject verb object = none) :
    subject.tag.reply? verb = none := by
  have hanswered := answered_operators (fun _ _ _ _ => pure .nil) 0 subject verb object
  rw [h, Option.map_none, answered, Option.map_eq_none_iff] at hanswered
  rw [Tag.reply?_operator _ heval hchoose hand hor, hanswered]

end Direct

/-! ## Meaningful errors -/

/-- The errors that are mistakes in a program. -/
inductive Meaningful (program : Value) : EvalError → Prop
  /-- A name of the program stands for nothing. -/
  | name {name : String} : Occurs (.name name) program → Meaningful program (.nameNotFound name)
  /-- A verb of the program that the type of a value does not have. -/
  | verb {verb : String} (subject : Value) : subject.tag ≠ .handler →
      subject.tag.reply? verb = none → verb ∉ ["eval", "?", "and", "or"] →
      program.HasVerb verb →
      Meaningful program (.handlerNotFound subject.tag verb subject.render)
  /-- An operand that is not of the type of the subject. -/
  | operand {type right : Tag} : type ∈ [Tag.integer, .float, .string] → right ≠ type →
      Meaningful program (.typeMismatch type type right)
  /-- A choice that is not between two sides. -/
  | choice {left right : Tag} : right ≠ .pair →
      Meaningful program (.typeMismatch .pair left right)
  /-- A key that is no string. -/
  | key {right : Tag} : right ≠ .string →
      Meaningful program (.typeMismatch .string .map right)

namespace Meaningful

variable {program : Value} {again : Direct.Meaning}

/-- The errors of operators are meaningful. -/
lemma of_operator? {subject object : Value} {verb : String} {answer : Except EvalError Value}
    (h : Direct.operator? subject verb object = some answer) :
    Fails (some answer) (Meaningful program) := by
  rintro error ⟨⟩
  rcases Direct.operator?_error h with ⟨type, right, htype, hright, rfl⟩ | ⟨right, hright, rfl⟩
  · exact .operand htype hright
  · exact .key hright

/-- The meaning of the nodes of a program, in scopes of its answers, fails in meaningful ways. -/
def Sensible (program : Value) (again : Direct.Meaning) : Prop :=
  ∀ scope value result, again scope value = some result →
    (Closure.traced program).Scoped scope → (Closure.traced program).Source value →
    Fails (some result) (Meaningful program)

lemma Sensible.fails (h : Sensible program again) {scope : Scope} {value : Value}
    (hscope : (Closure.traced program).Scoped scope)
    (hvalue : (Closure.traced program).Source value) :
    Fails (again scope value) (Meaningful program) := by
  intro error herror
  exact h scope value (.error error) herror hscope hvalue error rfl

/-- **Messages.**  A message with a verb of the program fails in meaningful ways. -/
lemma Sensible.delivery (h : Sensible program again) {subject object : Value} {verb : String}
    (hverb : program.HasVerb verb) (hsubject : (Closure.traced program).Answer subject)
    (hobject : (Closure.traced program).Answer object) :
    Fails (Direct.delivery again subject verb object) (Meaningful program) := by
  let c := Closure.traced program
  have hpart : ∀ {part : Value}, c.Source part →
      Fails (again (some (subject, object)) part) (Meaningful program) :=
    fun hpart => h.fails (c.scoped_some hsubject hobject) hpart
  have hside : ∀ {left right side : Value}, c.Answer (.pair left right) →
      side ∈ [left, right] → Fails (again (some (subject, object)) side) (Meaningful program) :=
    fun hpair hside => hpart (c.part (c.source hpair) hside)
  have hhandler : subject.tag ≠ .handler := by
    intro htag
    cases subject <;> cases htag
    exact (hsubject _ .self).not_handler
  unfold Direct.delivery
  split_ifs with hhandled heval hchoose hnil hand hnil hor hnil
  · exact absurd hhandled hhandler
  · exact hpart (c.source hsubject)
  · cases object with
    | pair left right => exact hside hobject (by simp)
    | _ => exact .error (.choice (by simp [Value.tag]))
  · cases object with
    | pair left right => exact hside hobject (by simp)
    | _ => exact .error (.choice (by simp [Value.tag]))
  · exact .ok _
  · exact hpart (c.source hobject)
  · exact hpart (c.source hobject)
  · exact .ok _
  · split
    · rename_i answer hanswer
      exact of_operator? hanswer
    · rename_i hnone
      have hreply := Direct.reply?_of_operator?_eq_none heval hchoose hand hor hnone
      exact .error (.verb subject hhandler hreply (by simp [heval, hchoose, hand, hor]) hverb)

/-- **Values.**  One clause for each type. -/
lemma Sensible.evaluation (h : Sensible program again)
    (hsound : (Closure.traced program).Sound again) :
    Sensible program (Direct.evaluation again) := by
  let c := Closure.traced program
  intro scope value result hresult hscope hvalue
  have hpart : ∀ {part : Value}, part ∈ value.exposedParts →
      Fails (again scope part) (Meaningful program) :=
    fun hpart => h.fails hscope (c.part hvalue hpart)
  have hanswers : ∀ {part : Value}, part ∈ value.exposedParts →
      Answers (again scope part) c.Answer :=
    fun hpart => hsound.answers hscope (c.part hvalue hpart)
  rw [← hresult]
  cases value with
  | nil | integer _ | float _ | string _ | later _ => exact .ok _
  | name text =>
      simp only [Direct.evaluation]
      cases scope.find? text with
      | none => exact .error (.name ((hvalue _ .self).allowed_of_isCode trivial))
      | some bound => exact .ok bound
  | block items => exact .foldlM (fun _ item hitem => hpart hitem) .nil
  | array items => exact .bind_any (.mapM fun item hitem => hpart hitem) fun _ => .ok _
  | map entries =>
      refine .bind_any (.mapM fun entry hentry => ?_) fun _ => .ok _
      exact .bind_any (hpart (List.mem_map_of_mem hentry)) fun _ => .ok _
  | pair left right =>
      exact .bind_any (hpart (by simp)) fun _ => .bind_any (hpart (by simp)) fun _ => .ok _
  | message verb object => exact .bind_any (hpart (by simp)) fun _ => .ok _
  | send subject verb object =>
      have hverb : program.HasVerb verb :=
        .inr ⟨subject, object, (hvalue _ .self).allowed_of_isCode trivial⟩
      refine .bind (hpart (by simp)) (hanswers (by simp)) fun subject hsubject => ?_
      refine .bind (hpart (by simp)) (hanswers (by simp)) fun object hobject => ?_
      exact h.delivery hverb hsubject hobject
  | handler made => exact ((hvalue _ .self).not_handler).elim

end Meaningful

/-- **Meaningful errors.**  A program without handlers fails in meaningful ways only. -/
theorem meaningful_of_interpret {program : Value} {error : EvalError} (hprogram : program.Unhandled)
    (h : interpret none program = some (.error error)) : Meaningful program error := by
  let c := Closure.traced program
  let Meant (scope : Scope) (value : Value) (result : Except EvalError Value) : Prop :=
    c.Scoped scope → c.Source value →
      Answers (some result) c.Answer ∧ Fails (some result) (Meaningful program)
  have hmeant : Meant none program (.error error) := by
    refine interpret_induction Meant ?_ h
    intro again hagain scope value result hresult hscope hvalue
    have hsound : c.Sound again := fun scope value result hresult hscope hvalue =>
      (hagain scope value result hresult hscope hvalue).1
    have hsensible : Meaningful.Sensible program again :=
      fun scope value result hresult hscope hvalue =>
        (hagain scope value result hresult hscope hvalue).2
    exact ⟨hsound.evaluation scope value result hresult hscope hvalue,
      hsensible.evaluation hsound scope value result hresult hscope hvalue⟩
  exact (hmeant c.scoped_none (Value.everywhere_traced_self hprogram)).2 error rfl

end Missive
