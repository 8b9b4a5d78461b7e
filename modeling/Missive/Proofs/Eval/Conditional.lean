import Missive.Proofs.Eval.Refinement
import Missive.Proofs.Eval.Written
import Missive.Proofs.Grammar.Parsing
import Mathlib

/-!
# Deferred conditionals

The text `(c) ? @(x):@(y)` defers both branches of a conditional.  Its operand is *one* deferred
value, the pair of `x` and the deferred `y`, because an `@` reaches over the colon behind its value.
Evaluating the operand takes off the first `@`, and evaluating the chosen branch once more runs `x`,
but of `y` it only takes off the second `@`.

* `parse_conditional`: how the text is read.
* `interpret_conditional`: what it means.
* `run_conditional`: what it comes to, and when that is what the chosen branch comes to.
-/

namespace Missive

open Grammar Text

/-- The text of a conditional with two deferred branches. -/
def conditional (c x y : String) : String :=
  "(" ++ c ++ ") ? @(" ++ x ++ "):@(" ++ y ++ ")"

/-- The words of a conditional. -/
lemma scans_conditional {c x y : String} {cs xs ys : List Word} (hc : Scans c.toList cs)
    (hx : Scans x.toList xs) (hy : Scans y.toList ys) :
    Scans (conditional c x y).toList
      (⟨.openParen, "("⟩ :: (cs ++ [⟨.closeParen, ")"⟩]) ++ ⟨.verb, "?"⟩ :: ⟨.at, "@"⟩ ::
        (⟨.openParen, "("⟩ :: (xs ++ [⟨.closeParen, ")"⟩]) ++ ⟨.colon, ":"⟩ :: ⟨.at, "@"⟩ ::
          ⟨.openParen, "("⟩ :: (ys ++ [⟨.closeParen, ")"⟩]))) := by
  have hdelimited : ∀ rest, Delimited (')' :: rest) := fun rest => .cons (by decide) rest
  have hblank : isBlank ' ' = true := by decide
  have hverb : Scans ['?'] [⟨.verb, "?"⟩] := .single (by simp) rfl
  have hend : Scans (y.toList ++ [')']) _ := hy.append (hdelimited []) (.punctuation rfl .nil)
  have hbranches : Scans (x.toList ++ ')' :: ':' :: '@' :: '(' :: (y.toList ++ [')'])) _ :=
    hx.append (hdelimited _)
      (.punctuation rfl (.punctuation rfl (.punctuation rfl (.punctuation rfl hend))))
  have hoperand : Scans ('?' :: ' ' :: '@' :: '(' ::
      (x.toList ++ ')' :: ':' :: '@' :: '(' :: (y.toList ++ [')']))) _ :=
    hverb.append (.cons (by decide) _)
      (.blank hblank (.punctuation rfl (.punctuation rfl hbranches)))
  have htext := Scans.punctuation (c := '(') rfl
    (hc.append (hdelimited _) (.punctuation rfl (.blank hblank hoperand)))
  simpa [conditional] using htext

/-- The operand is one deferred pair. -/
theorem parse_conditional {c x y : String} {ec ex ey : Expr} (hc : parse c = .ok ec)
    (hx : parse x = .ok ex) (hy : parse y = .ok ey) :
    parse (conditional c x y) = .ok (.send ec "?" (.later (.pair ex (.later ey)))) := by
  obtain ⟨cs, hcs, hc⟩ := parse_eq_ok.1 hc
  obtain ⟨xs, hxs, hx⟩ := parse_eq_ok.1 hx
  obtain ⟨ys, hys, hy⟩ := parse_eq_ok.1 hy
  refine parse_eq_ok.2 ⟨_, scans_conditional hcs hxs hys, ?_⟩
  refine .send (v := ⟨.verb, "?"⟩) (.value (.closed (.paren rfl hc rfl))) (.inl rfl) ?_
  refine .later rfl (.pair (.paren rfl hx rfl) rfl ?_)
  exact .later rfl (.closed (.paren rfl hy rfl))

/-- The chosen branch is evaluated once more, which runs the left one and gives back the right one
as it is. -/
theorem interpret_conditional {c x y c' : Value} (hc : c.Unhandled)
    (hx : x.Written fun text => text ≠ "it" ∧ text ≠ "that")
    (hvalue : interpret none c = some (.ok c')) :
    interpret none (.send c "?" (.later (.pair x (.later y))))
      = if c'.isNil then some (.ok y) else interpret none x := by
  have hc' : c'.Unhandled := unhandled_interpret hvalue trivial hc c' rfl
  have htag : c'.tag ≠ .handler := by
    cases hc' <;> simp [Value.tag]
  rw [interpret_send hvalue (interpret_later none _), deliver_choose htag]
  cases c'.isNil with
  | true => exact interpret_later _ y
  | false => exact interpret_scope hx _

/-- A program that comes to a value means the value. -/
lemma interpret_of_settles {source : String} {e : Expr} {value : Value} (h : parse source = .ok e)
    (hvalue : Settles (fun fuel => run fuel source) (some (.ok value))) :
    interpret none (Value.ofExpr e) = some (.ok value) := by
  have houtcome := (run_settles h).unique hvalue
  cases hanswer : interpret none (Value.ofExpr e) with
  | none =>
      rw [hanswer] at houtcome
      cases houtcome
  | some answer =>
      rw [hanswer] at houtcome
      cases answer with
      | error error => cases houtcome
      | ok result =>
          cases houtcome
          rfl

/-- What a conditional comes to, given the value of its condition. -/
lemma settles_conditional {c x y : String} {ec ex ey : Expr} {c' : Value}
    (hc : parse c = .ok ec) (hx : parse x = .ok ex) (hy : parse y = .ok ey)
    (hnames : ∀ text ∈ ex.names, text ≠ "it" ∧ text ≠ "that")
    (hvalue : Settles (fun fuel => run fuel c) (some (.ok c'))) :
    Settles (fun fuel => run fuel (conditional c x y))
      (if c'.isNil then some (.ok (Value.ofExpr ey))
        else (interpret none (Value.ofExpr ex)).map fun answer => answer.mapError .eval) := by
  have hmeaning := interpret_conditional (y := Value.ofExpr ey)
    (Value.written_ofExpr fun _ _ => trivial) (Value.written_ofExpr hnames)
    (interpret_of_settles hc hvalue)
  have hsettles := run_settles (parse_conditional hc hx hy)
  rw [Value.ofExpr, Value.ofExpr, Value.ofExpr, Value.ofExpr, hmeaning] at hsettles
  cases hnil : c'.isNil <;> simpa [hnil, Except.mapError] using hsettles

/-- **What a conditional with two deferred branches comes to.**  Its condition comes to a value, and
neither branch mentions `it` or `that`.  If the value is not nil, the conditional comes to what the
left branch comes to.  If it is nil, the conditional comes to the right branch itself, before it
runs; this is what the right branch comes to exactly if it comes to itself. -/
theorem run_conditional {c x y : String} {ec ex ey : Expr} {c' : Value}
    (hc : parse c = .ok ec) (hx : parse x = .ok ex) (hy : parse y = .ok ey)
    (hnames : ∀ text ∈ ex.names ++ ey.names, text ≠ "it" ∧ text ≠ "that")
    (hvalue : Settles (fun fuel => run fuel c) (some (.ok c'))) :
    (c'.isNil = false →
      SameOutcome (fun fuel => run fuel (conditional c x y)) (fun fuel => run fuel x)) ∧
    (c'.isNil = true →
      Settles (fun fuel => run fuel (conditional c x y)) (some (.ok (Value.ofExpr ey)))) ∧
    (SameOutcome (fun fuel => run fuel (conditional c x y))
        (fun fuel => run fuel (if c'.isNil then y else x)) ↔
      (c'.isNil = true →
        Settles (fun fuel => run fuel y) (some (.ok (Value.ofExpr ey))))) := by
  have hsettles := settles_conditional hc hx hy
    (fun text htext => hnames text (List.mem_append_left _ htext)) hvalue
  cases hnil : c'.isNil with
  | false =>
      simp only [hnil, Bool.false_eq_true, ↓reduceIte] at hsettles ⊢
      have hsame := SameOutcome.of_settles hsettles (run_settles hx)
      simp [hsame]
  | true =>
      simp only [hnil, ↓reduceIte] at hsettles ⊢
      refine ⟨by simp, fun _ => hsettles, ?_⟩
      constructor
      · intro hsame _
        exact (hsame _).1 hsettles
      · intro hself
        exact .of_settles hsettles (hself trivial)

/-- Nil comes to itself. -/
lemma settles_nil : Settles (fun fuel => run fuel "()") (some (.ok .nil)) := by
  have hparse : parse "()" = .ok .nil := by cbv
  have hsettles := run_settles hparse
  rwa [Value.ofExpr, interpret_eq] at hsettles

/-- The conditional `(()) ? @(a):@(2 + 3)` comes to its right branch, not to five. -/
theorem run_conditional_nil :
    Settles (fun fuel => run fuel (conditional "()" "a" "2 + 3"))
      (some (.ok (.send (.integer 2) "+" (.integer 3)))) := by
  have hc : parse "()" = .ok .nil := by cbv
  have hx : parse "a" = .ok (.name "a") := by cbv
  have hy : parse "2 + 3" = .ok (.send (.int 2) "+" (.int 3)) := by cbv
  exact (run_conditional hc hx hy (by simp [Expr.names]) settles_nil).2.1 rfl

/-- A deferred right branch is not always computed when it is chosen. -/
theorem not_forall_sameOutcome_conditional :
    ¬ ∀ (c x y : String) (ec ex ey : Expr) (c' : Value),
      parse c = .ok ec → parse x = .ok ex → parse y = .ok ey →
      (∀ text ∈ ex.names ++ ey.names, text ≠ "it" ∧ text ≠ "that") →
      Settles (fun fuel => run fuel c) (some (.ok c')) →
      SameOutcome (fun fuel => run fuel (conditional c x y))
        (fun fuel => run fuel (if c'.isNil then y else x)) := by
  intro hall
  have hc : parse "()" = .ok .nil := by cbv
  have hx : parse "1" = .ok (.int 1) := by cbv
  have hy : parse "2 + 3" = .ok (.send (.int 2) "+" (.int 3)) := by cbv
  have hsame := hall _ _ _ _ _ _ _ hc hx hy (by simp [Expr.names]) settles_nil
  have hconditional := settles_conditional hc hx hy (by simp [Expr.names]) settles_nil
  have hfive : interpret none (.send (.integer 2) "+" (.integer 3))
      = some (.ok (.integer 5)) := by
    rw [interpret_eq, Direct.evaluation, interpret_eq, interpret_eq]
    rfl
  have hbranch := run_settles hy
  rw [Value.ofExpr, Value.ofExpr, Value.ofExpr, hfive] at hbranch
  have houtcome := ((hsame _).1 hconditional).unique hbranch
  simp [Value.isNil, Value.ofExpr, Except.mapError] at houtcome

end Missive
