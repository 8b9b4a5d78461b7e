import Missive.Proofs.Eval.Operators

/-!
# Classes of values that evaluation stays in

A `Closure` is a pair of classes of values, one for what is evaluated and one for what evaluation
answers with.  Its laws are local: they speak of a value and its parts, and of a value that is
rebuilt from answers.  They are enough to know that the answer to any value of the one class is of
the other (`Closure.interpret`), whatever runs in between: `it` and `that`, which stand for answers,
and answers that are evaluated again.
-/

namespace Missive

/-! ## Answers -/

/-- What holds of the answer of a computation, if it has one. -/
def Answers {α : Type} (x : Option (Except EvalError α)) (P : α → Prop) : Prop :=
  ∀ a, x = some (.ok a) → P a

namespace Answers

variable {α β : Type} {P : α → Prop} {Q : β → Prop}

lemma ok {a : α} (ha : P a) : Answers (some (.ok a)) P := by
  intro b hb
  cases hb
  exact ha

lemma error (e : EvalError) : Answers (some (.error e)) P := by
  intro b hb
  cases hb

lemma bind {x : Option (Except EvalError α)} {f : α → Option (Except EvalError β)}
    (hx : Answers x P) (hf : ∀ a, P a → Answers (f a) Q) :
    Answers (Bind.bind (m := AnswerM) x f) Q := by
  intro b hb
  cases x with
  | none => cases hb
  | some answer =>
      cases answer with
      | error error => cases hb
      | ok a => exact hf a (hx a rfl) b hb

lemma foldlM {f : β → α → Option (Except EvalError β)} {items : List α} {b : β}
    (hf : ∀ b, ∀ a ∈ items, Q b → Answers (f b a) Q) (hb : Q b) :
    Answers (items.foldlM (m := AnswerM) f b) Q := by
  induction items generalizing b with
  | nil => exact .ok hb
  | cons item items ih =>
      rw [List.foldlM_cons]
      refine .bind (hf b item List.mem_cons_self hb) fun b hb => ?_
      exact ih (fun b a ha => hf b a (List.mem_cons_of_mem _ ha)) hb

lemma mapM {f : α → Option (Except EvalError β)} {items : List α}
    (hf : ∀ a ∈ items, Answers (f a) Q) :
    Answers (items.mapM (m := AnswerM) f) fun bs => ∀ b ∈ bs, Q b := by
  induction items with
  | nil => exact .ok (by simp)
  | cons item items ih =>
      rw [List.mapM_cons]
      refine .bind (hf item List.mem_cons_self) fun b hb => ?_
      refine .bind (ih fun a ha => hf a (List.mem_cons_of_mem _ ha)) fun bs hbs => ?_
      exact .ok (List.forall_mem_cons.2 ⟨hb, hbs⟩)

/-- Entries keep their keys. -/
lemma entries {f : α → Option (Except EvalError β)} {entries : List (String × α)}
    (hf : ∀ entry ∈ entries, Answers (f entry.2) Q) :
    Answers (entries.mapM (m := AnswerM) fun entry =>
        Bind.bind (m := AnswerM) (f entry.2) fun value => pure (entry.1, value))
      fun results => results.map Prod.fst = entries.map Prod.fst ∧
        ∀ result ∈ results, Q result.2 := by
  induction entries with
  | nil => exact .ok (by simp)
  | cons entry entries ih =>
      have hentry : Answers (Bind.bind (m := AnswerM) (f entry.2) fun value =>
          pure (entry.1, value)) fun result => result.1 = entry.1 ∧ Q result.2 :=
        .bind (hf entry List.mem_cons_self) fun value hvalue => .ok ⟨rfl, hvalue⟩
      rw [List.mapM_cons]
      refine .bind hentry fun result hresult => ?_
      refine .bind (ih fun entry hentry => hf entry (List.mem_cons_of_mem _ hentry))
        fun results hresults => .ok ⟨?_, ?_⟩
      · rw [List.map_cons, List.map_cons, hresult.1, hresults.1]
      · exact List.forall_mem_cons.2 ⟨hresult.2, hresults.2⟩

end Answers

/-! ## Closures -/

/-- A class of values to evaluate and a class of answers to them. -/
structure Closure where
  Source : Value → Prop
  Answer : Value → Prop
  source {value : Value} : Answer value → Source value
  part {value part : Value} : Source value → part ∈ value.exposedParts → Source part
  body {body : Value} : Source (.later body) → Answer body
  datum {value : Value} : value.Datum → Answer value
  array {items : List Value} : (∀ item ∈ items, Answer item) → Answer (.array items)
  map {entries results : List (String × Value)} : Source (.map entries) →
    results.map Prod.fst = entries.map Prod.fst → (∀ result ∈ results, Answer result.2) →
    Answer (.map results)
  pair {left right : Value} : Answer left → Answer right → Answer (.pair left right)
  message {verb : String} {object result : Value} : Source (.message verb object) →
    Answer result → Answer (.message verb result)
  entry {entries : List (String × Value)} {value : Value} : Answer (.map entries) →
    value ∈ entries.map Prod.snd → Answer value

namespace Closure

variable (c : Closure) {subject object : Value} {scope : Scope}

/-- What is bound in a scope is an answer. -/
def Scoped (scope : Scope) : Prop :=
  ∀ text bound, scope.find? text = some bound → c.Answer bound

lemma scoped_none : c.Scoped none := by
  intro text bound hbound
  cases hbound

lemma scoped_some (hsubject : c.Answer subject) (hobject : c.Answer object) :
    c.Scoped (some (subject, object)) := by
  intro text bound hbound
  simp only [Scope.find?] at hbound
  split_ifs at hbound
  · cases hbound
    exact hsubject
  · cases hbound
    exact hobject

/-- Operators answer with answers. -/
lemma operator? {verb : String} {answer : Except EvalError Value} (hsubject : c.Answer subject)
    (hobject : c.Answer object) (h : Direct.operator? subject verb object = some answer) :
    Answers (some answer) c.Answer := by
  rintro result ⟨⟩
  rcases Direct.operator?_ok h with hdatum | ⟨-, -, rfl⟩ | ⟨entries, key, rfl, -, -, hvalue⟩
  · exact c.datum hdatum
  · exact hobject
  · exact c.entry hsubject hvalue

/-- The meaning of values answers with answers. -/
def Sound (again : Direct.Meaning) : Prop :=
  ∀ scope value result, again scope value = some result → c.Scoped scope → c.Source value →
    Answers (some result) c.Answer

variable {c} {again : Direct.Meaning}

lemma Sound.answers (hagain : c.Sound again) (hscope : c.Scoped scope) {value : Value}
    (hvalue : c.Source value) : Answers (again scope value) c.Answer := by
  intro a ha
  exact hagain scope value (.ok a) ha hscope hvalue a rfl

/-- **Messages.**  A message to an answer, with an answer for its operand, is answered with one. -/
lemma Sound.delivery (hagain : c.Sound again) (verb : String) (hsubject : c.Answer subject)
    (hobject : c.Answer object) :
    Answers (Direct.delivery again subject verb object) c.Answer := by
  have hpart : ∀ {part : Value}, c.Source part →
      Answers (again (some (subject, object)) part) c.Answer :=
    fun hpart => hagain.answers (c.scoped_some hsubject hobject) hpart
  have hside : ∀ {left right side : Value}, c.Answer (.pair left right) →
      side ∈ [left, right] → Answers (again (some (subject, object)) side) c.Answer :=
    fun hpair hside => hpart (c.part (c.source hpair) hside)
  unfold Direct.delivery
  split_ifs
  · exact .error _
  · exact hpart (c.source hsubject)
  · cases object with
    | pair left right => exact hside hobject (by simp)
    | _ => exact .error _
  · cases object with
    | pair left right => exact hside hobject (by simp)
    | _ => exact .error _
  · exact .ok (c.datum .nil)
  · exact hpart (c.source hobject)
  · exact hpart (c.source hobject)
  · exact .ok hsubject
  · split
    · rename_i answer hanswer
      exact c.operator? hsubject hobject hanswer
    · exact .error _

/-- **Values.**  One clause for each type. -/
lemma Sound.evaluation (hagain : c.Sound again) : c.Sound (Direct.evaluation again) := by
  intro scope value result hresult hscope hvalue
  have hpart : ∀ {part : Value}, part ∈ value.exposedParts →
      Answers (again scope part) c.Answer :=
    fun hpart => hagain.answers hscope (c.part hvalue hpart)
  rw [← hresult]
  cases value with
  | nil => exact .ok (c.datum .nil)
  | integer value => exact .ok (c.datum (.integer value))
  | float value => exact .ok (c.datum (.float value))
  | string value => exact .ok (c.datum (.string value))
  | name text =>
      simp only [Direct.evaluation]
      cases hfind : scope.find? text with
      | none => exact .error _
      | some bound => exact .ok (hscope text bound hfind)
  | later body => exact .ok (c.body hvalue)
  | block items => exact .foldlM (fun _ item hitem _ => hpart hitem) (c.datum .nil)
  | array items =>
      exact .bind (.mapM fun item hitem => hpart hitem) fun items hitems => .ok (c.array hitems)
  | map entries =>
      refine .bind (.entries fun entry hentry => hpart (List.mem_map_of_mem hentry)) ?_
      exact fun results hresults => .ok (c.map hvalue hresults.1 hresults.2)
  | pair left right =>
      refine .bind (hpart (by simp)) fun left hleft => ?_
      refine .bind (hpart (by simp)) fun right hright => ?_
      exact .ok (c.pair hleft hright)
  | message verb object =>
      exact .bind (hpart (by simp)) fun object hobject => .ok (c.message hvalue hobject)
  | send subject verb object =>
      refine .bind (hpart (by simp)) fun subject hsubject => ?_
      refine .bind (hpart (by simp)) fun object hobject => ?_
      exact hagain.delivery verb hsubject hobject
  | handler made => exact .error _

/-- **Evaluation stays in the classes.** -/
theorem interpret (c : Closure) {value : Value} {result : Except EvalError Value}
    (h : interpret scope value = some result) (hscope : c.Scoped scope) (hvalue : c.Source value) :
    Answers (some result) c.Answer :=
  interpret_induction (fun scope value result => c.Scoped scope → c.Source value →
    Answers (some result) c.Answer) (fun _ hagain => Sound.evaluation hagain) h hscope hvalue

end Closure

end Missive
