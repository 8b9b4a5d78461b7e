import Missive.Proofs.Grammar.Basic
import Mathlib.Tactic.Lemma

/-!
# The parser reads every derivation

A phrase of the grammar takes the parser from a place where a value has to begin to a place behind
a closed expression.  Operators that the phrase leaves waiting make its expression of the closed
one.

* `Reaches`: the words between two states.
* `reaches_of_closed` and the theorems with it: one for each phrase, by induction on derivations.
-/

namespace Missive.Parser

open Grammar

/-! ## From state to state -/

/-- Whatever their places, tokens with the given words lead from one state to another. -/
def Reaches (state : State) (ws : List Word) (last : State) : Prop :=
  ∀ ⦃tokens : List Token⦄, tokens.map Token.word = ws →
    tokens.foldlM State.next? state = some last

namespace Reaches

variable {state next last : State} {ws us : List Word} {w : Word}

lemma refl (state : State) : Reaches state [] state := by
  intro tokens htokens
  rw [List.map_eq_nil_iff.1 htokens]
  rfl

lemma append (h : Reaches state ws next) (h' : Reaches next us last) :
    Reaches state (ws ++ us) last := by
  intro tokens htokens
  obtain ⟨front, back, rfl, hfront, hback⟩ := List.map_eq_append_iff.1 htokens
  rw [List.foldlM_append, h hfront]
  exact h' hback

lemma single (h : ∀ token : Token, token.word = w → state.next? token = some next) :
    Reaches state [w] next := by
  intro tokens htokens
  obtain ⟨token, rfl, htoken⟩ := List.map_eq_singleton_iff.1 htokens
  rw [List.foldlM_cons, h token htoken]
  rfl

lemma cons (next : State)
    (h : ∀ token : Token, token.word = w → state.next? token = some next)
    (h' : Reaches next ws last) : Reaches state (w :: ws) last :=
  (single h).append h'

/-- A phrase goes on behind an opening bracket as it does where a value has to begin: its first
token is no closing bracket. -/
lemma opened {inner : State} (h : Reaches inner ws last) (hne : last ≠ inner)
    (hfirst : ∀ token next, inner.next? token = some next → state.next? token = some next) :
    Reaches state ws last := by
  intro tokens htokens
  have hinner := h htokens
  cases tokens with
  | nil =>
    simp only [List.foldlM_nil, Option.pure_def, Option.some.injEq] at hinner
    exact absurd hinner.symm hne
  | cons token tokens =>
    rw [List.foldlM_cons] at hinner ⊢
    obtain ⟨next, hnext, hlast⟩ := Option.bind_eq_some_iff.1 hinner
    rw [hfirst token next hnext]
    exact hlast

end Reaches

/-! ## Single tokens -/

section

variable {operators : List Operator} {enclosures : List (Enclosure × List Operator)}
  {token : Token} {next : State}

/-- No value begins with a closing bracket. -/
lemma kind_ne_of_beginValue? {state : State} (h : state.beginValue? token = some next) :
    token.kind ≠ .closeParen ∧ ∀ bracket : Bracket, token.kind ≠ bracket.close := by
  refine ⟨?_, ?_⟩
  · intro hkind
    simp [State.beginValue?, hkind] at h
  · intro bracket hkind
    cases bracket <;> simp [State.beginValue?, hkind, Bracket.close] at h

/-- A word that stands for an expression is a closed expression. -/
lemma next?_literal {e : Expr} (h : literal? token.word = some e) :
    State.next? ⟨operators, enclosures, .value⟩ token
      = some ⟨operators, enclosures, .closed e⟩ := by
  rcases literal?_cases h with ⟨hkind, hfits, rfl⟩ | ⟨hkind, rfl⟩ | ⟨hkind, rfl⟩ | ⟨hkind, rfl⟩ <;>
    rw [Token.word_kind] at hkind
  · rw [Token.word_text] at hfits
    simp [State.next?, State.beginValue?, hkind, numberMode, hfits, State.withMode]
  all_goals simp [State.next?, State.beginValue?, hkind, State.withMode]

/-- Outside of a map entry a verb behind a value sends a message. -/
lemma next?_verb {e : Expr} (hverb : IsVerb token.word)
    (hentry : ∀ earlier key outer rest, enclosures ≠ (.entry earlier key, outer) :: rest) :
    State.next? ⟨operators, enclosures, .closed e⟩ token
      = some ⟨[.send (settle operators e) token.text], enclosures, .value⟩ := by
  have hkind : token.kind = .verb ∨ token.kind = .name := hverb
  have hcolon : token.kind ≠ .colon := by rcases hkind with h | h <;> simp [h]
  have hparen : token.kind ≠ .closeParen := by rcases hkind with h | h <;> simp [h]
  have hcomma : token.kind ≠ .comma := by rcases hkind with h | h <;> simp [h]
  have hclose : ∀ bracket : Bracket, token.kind ≠ bracket.close := by
    intro bracket
    cases bracket <;> rcases hkind with h | h <;> simp [h, Bracket.close]
  have hsend : ∀ state : State, state.send? (settle operators e) token
      = some { state with operators := [.send (settle operators e) token.text], mode := .value } :=
    fun state => if_pos hkind
  simp only [State.next?, if_neg hcolon, State.follow?]
  split
  · exact hsend _
  · rw [if_neg hparen]
    exact hsend _
  · rw [if_neg (hclose _), if_neg hcomma]
    exact hsend _
  · exact absurd rfl (hentry _ _ _ _)

/-- A phrase in parentheses. -/
lemma reaches_parenOpened {ws : List Word} {ops : List Operator} {e : Expr}
    (h : Reaches ⟨[], (.paren, operators) :: enclosures, .value⟩ ws
      ⟨ops, (.paren, operators) :: enclosures, .closed e⟩) :
    Reaches ⟨operators, enclosures, .parenOpened⟩ ws
      ⟨ops, (.paren, operators) :: enclosures, .closed e⟩ := by
  refine h.opened (by simp) fun token next hnext => ?_
  have hclose := (kind_ne_of_beginValue? hnext).1
  simpa [State.next?, hclose, State.enter] using hnext

/-- The first items of a block or an array. -/
lemma reaches_bracketOpened {ws : List Word} {bracket : Bracket} {earlier : List Expr}
    {ops : List Operator} {e : Expr}
    (h : Reaches ⟨[], (.items bracket [], operators) :: enclosures, .value⟩ ws
      ⟨ops, (.items bracket earlier, operators) :: enclosures, .closed e⟩) :
    Reaches ⟨operators, enclosures, .bracketOpened bracket⟩ ws
      ⟨ops, (.items bracket earlier, operators) :: enclosures, .closed e⟩ := by
  refine h.opened (by simp) fun token next hnext => ?_
  have hclose := (kind_ne_of_beginValue? hnext).2 bracket
  simpa [State.next?, hclose, State.enter] using hnext

/-- The entries of a map. -/
lemma reaches_mapOpened {ws : List Word} {enclosure : Enclosure} {ops : List Operator} {e : Expr}
    (h : Reaches ⟨operators, enclosures, .mapKey []⟩ ws
      ⟨ops, (enclosure, operators) :: enclosures, .closed e⟩) :
    Reaches ⟨operators, enclosures, .mapOpened⟩ ws
      ⟨ops, (enclosure, operators) :: enclosures, .closed e⟩ := by
  refine h.opened (by simp) fun token next hnext => ?_
  by_cases hkind : token.kind = .string
  · simpa [State.next?, State.key?, hkind, State.withMode] using hnext
  · simp [State.next?, State.key?, hkind] at hnext

/-- A key and its colon. -/
lemma reaches_entry {k c : Word} {ws : List Word} {earlier : List (String × Expr)} {last : State}
    (hk : k.kind = .string) (hc : c.kind = .colon)
    (h : Reaches ⟨[], (.entry earlier (Text.unquote k.text), operators) :: enclosures, .value⟩ ws
      last) :
    Reaches ⟨operators, enclosures, .mapKey earlier⟩ (k :: c :: ws) last := by
  refine .cons ⟨operators, enclosures, .mapColon earlier (Text.unquote k.text)⟩ ?_
    (.cons _ ?_ h)
  · rintro token rfl
    simp_all [State.next?, State.key?, State.withMode]
  · rintro token rfl
    simp_all [State.next?, State.enter]

end

/-! ## Phrases -/

/-- Operators apply in turn. -/
lemma settle_append (inner outer : List Operator) (e : Expr) :
    settle (inner ++ outer) e = settle outer (settle inner e) :=
  List.foldl_append

mutual

/-- A closed phrase leaves everything around it as it is. -/
theorem reaches_of_closed : ∀ {ws : List Word} {e : Expr}, Closed .closed ws e →
    ∀ (operators : List Operator) (enclosures : List (Enclosure × List Operator)),
    Reaches ⟨operators, enclosures, .value⟩ ws ⟨operators, enclosures, .closed e⟩
  | _, _, .nil hl hr, operators, enclosures => by
      refine .cons ⟨operators, enclosures, .parenOpened⟩ ?_ (.single ?_)
      · rintro token rfl
        simp_all [State.next?, State.beginValue?, State.withMode]
      · rintro token rfl
        simp_all [State.next?, State.withMode]
  | _, _, .paren hl he hr, operators, enclosures => by
      obtain ⟨ops, c, hreaches, rfl⟩ := reaches_of_sending he ((.paren, operators) :: enclosures)
        (by simp)
      refine .cons ⟨operators, enclosures, .parenOpened⟩ ?_
        ((reaches_parenOpened hreaches).append (.single ?_))
      · rintro token rfl
        simp_all [State.next?, State.beginValue?, State.withMode]
      · rintro token rfl
        simp_all [State.next?, State.follow?]
  | _, _, .literal he, operators, enclosures => by
      refine .single ?_
      rintro token rfl
      exact next?_literal he
  | _, _, .empty bracket hl hr, operators, enclosures => by
      refine .cons ⟨operators, enclosures, .bracketOpened bracket⟩ ?_ (.single ?_)
      · rintro token rfl
        cases bracket <;> simp_all [State.next?, State.beginValue?, State.withMode, Bracket.opening]
      · rintro token rfl
        simp_all [State.next?, State.withMode]
  | _, _, .row bracket hl hes hr, operators, enclosures => by
      obtain ⟨ops, c, earlier, hreaches, hrow⟩ := reaches_of_row hes bracket [] operators enclosures
      refine .cons ⟨operators, enclosures, .bracketOpened bracket⟩ ?_
        ((reaches_bracketOpened hreaches).append (.single ?_))
      · rintro token rfl
        cases bracket <;> simp_all [State.next?, State.beginValue?, State.withMode, Bracket.opening]
      · rintro token rfl
        cases bracket <;> simp_all [State.next?, State.follow?, Bracket.close]
  | _, _, .emptyMap hl hr, operators, enclosures => by
      refine .cons ⟨operators, enclosures, .mapOpened⟩ ?_ (.single ?_)
      · rintro token rfl
        simp_all [State.next?, State.beginValue?, State.withMode]
      · rintro token rfl
        simp_all [State.next?, State.withMode]
  | _, _, .map hl hes hr, operators, enclosures => by
      obtain ⟨ops, c, kept, key, hreaches, hmap⟩ := reaches_of_entries hes [] operators enclosures
      refine .cons ⟨operators, enclosures, .mapOpened⟩ ?_
        ((reaches_mapOpened hreaches).append (.single ?_))
      · rintro token rfl
        simp_all [State.next?, State.beginValue?, State.withMode]
      · rintro token rfl
        simp_all [State.next?, State.follow?]

/-- The phrase of a value leaves operators of its own waiting. -/
theorem reaches_of_operand : ∀ {ws : List Word} {e : Expr}, Operand .closed ws e →
    ∀ (operators : List Operator) (enclosures : List (Enclosure × List Operator)),
    ∃ ops c, Reaches ⟨operators, enclosures, .value⟩ ws ⟨ops ++ operators, enclosures, .closed c⟩ ∧
      settle ops c = e
  | _, _, .closed he, operators, enclosures =>
      ⟨[], _, reaches_of_closed he operators enclosures, rfl⟩
  | _, _, @Operand.pair _ _ _ _ left _ hleft hc hright, operators, enclosures => by
      obtain ⟨ops, c, hreaches, rfl⟩ := reaches_of_operand hright (.pair left :: operators)
        enclosures
      refine ⟨ops ++ [.pair left], c, (reaches_of_closed hleft operators enclosures).append ?_,
        settle_append ops _ c⟩
      rw [List.append_assoc]
      refine .cons _ ?_ hreaches
      rintro token rfl
      simp_all [State.next?, State.await]
  | _, _, .later ha hbody, operators, enclosures => by
      obtain ⟨ops, c, hreaches, rfl⟩ := reaches_of_operand hbody (.later :: operators) enclosures
      refine ⟨ops ++ [.later], c, ?_, settle_append ops _ c⟩
      rw [List.append_assoc]
      refine .cons _ ?_ hreaches
      rintro token rfl
      simp_all [State.next?, State.beginValue?, State.await]
  | _, _, .message (v := v) hb hv hobject, operators, enclosures => by
      obtain ⟨ops, c, hreaches, rfl⟩ := reaches_of_operand hobject (.message v.text :: operators)
        enclosures
      refine ⟨ops ++ [.message v.text], c, ?_, settle_append ops _ c⟩
      rw [List.append_assoc]
      refine .cons ⟨operators, enclosures, .verb⟩ ?_ (.cons _ ?_ hreaches)
      · rintro token rfl
        simp_all [State.next?, State.beginValue?, State.withMode]
      · rintro token rfl
        exact if_pos hv
  | _, _, .laterPair hhead _ _ _ _, _, _ | _, _, .messagePair hhead _ _ _ _ _, _, _ => nomatch hhead

/-- A phrase with messages sends them one after the other. -/
theorem reaches_of_sending : ∀ {ws : List Word} {e : Expr}, Sending .closed ws e →
    ∀ enclosures : List (Enclosure × List Operator),
    (∀ earlier key outer rest, enclosures ≠ (.entry earlier key, outer) :: rest) →
    ∃ ops c, Reaches ⟨[], enclosures, .value⟩ ws ⟨ops, enclosures, .closed c⟩ ∧ settle ops c = e
  | _, _, .value he, enclosures, _ => by
      obtain ⟨ops, c, hreaches, hsettle⟩ := reaches_of_operand he [] enclosures
      rw [List.append_nil] at hreaches
      exact ⟨ops, c, hreaches, hsettle⟩
  | _, _, .send (v := v) hsubject hv hobject, enclosures, hentry => by
      obtain ⟨ops, c, hreaches, rfl⟩ := reaches_of_sending hsubject enclosures hentry
      obtain ⟨ops', c', hreaches', rfl⟩ := reaches_of_operand hobject
        [.send (settle ops c) v.text] enclosures
      refine ⟨_, c', hreaches.append (.cons _ ?_ hreaches'), settle_append ops' _ c'⟩
      rintro token rfl
      exact next?_verb hv hentry

/-- The items of a row are kept until its end. -/
theorem reaches_of_row : ∀ {ws : List Word} {es : List Expr}, Row .closed ws es →
    ∀ (bracket : Bracket) (earlier : List Expr) (outer : List Operator)
      (enclosures : List (Enclosure × List Operator)),
    ∃ ops c kept, Reaches ⟨[], (.items bracket earlier, outer) :: enclosures, .value⟩ ws
        ⟨ops, (.items bracket kept, outer) :: enclosures, .closed c⟩ ∧
      (settle ops c :: kept).reverse = earlier.reverse ++ es
  | _, _, .one he, bracket, earlier, outer, enclosures => by
      obtain ⟨ops, c, hreaches, rfl⟩ := reaches_of_sending he
        ((.items bracket earlier, outer) :: enclosures) (by simp)
      exact ⟨ops, c, earlier, hreaches, by simp⟩
  | _, _, .cons he hc hes, bracket, earlier, outer, enclosures => by
      obtain ⟨ops, c, hreaches, rfl⟩ := reaches_of_sending he
        ((.items bracket earlier, outer) :: enclosures) (by simp)
      obtain ⟨ops', c', kept, hreaches', hkept⟩ := reaches_of_row hes bracket
        (settle ops c :: earlier) outer enclosures
      refine ⟨ops', c', kept, hreaches.append (.cons _ ?_ hreaches'), by simpa using hkept⟩
      rintro token rfl
      cases bracket <;> simp_all [State.next?, State.follow?, Bracket.close]

/-- The entries of a map are kept until its end. -/
theorem reaches_of_entries : ∀ {ws : List Word} {es : List (String × Expr)},
    Entries .closed ws es →
    ∀ (earlier : List (String × Expr)) (outer : List Operator)
      (enclosures : List (Enclosure × List Operator)),
    ∃ ops c kept key, Reaches ⟨outer, enclosures, .mapKey earlier⟩ ws
        ⟨ops, (.entry kept key, outer) :: enclosures, .closed c⟩ ∧
      ((key, settle ops c) :: kept).reverse = earlier.reverse ++ es
  | _, _, @Entries.one _ k _ _ _ hk hc he, earlier, outer, enclosures => by
      obtain ⟨ops, c, hreaches, rfl⟩ := reaches_of_operand he []
        ((.entry earlier (Text.unquote k.text), outer) :: enclosures)
      rw [List.append_nil] at hreaches
      exact ⟨ops, c, earlier, _, reaches_entry hk hc hreaches, by simp⟩
  | _, _, @Entries.cons _ k _ _ _ _ _ _ hk hc he hs hes, earlier, outer, enclosures => by
      obtain ⟨ops, c, hreaches, rfl⟩ := reaches_of_operand he []
        ((.entry earlier (Text.unquote k.text), outer) :: enclosures)
      rw [List.append_nil] at hreaches
      obtain ⟨ops', c', kept, key, hreaches', hkept⟩ := reaches_of_entries hes
        ((Text.unquote k.text, settle ops c) :: earlier) outer enclosures
      refine ⟨ops', c', kept, key,
        (reaches_entry hk hc hreaches).append (.cons _ ?_ hreaches'), by simpa using hkept⟩
      rintro token rfl
      simp_all [State.next?, State.follow?]

end

end Missive.Parser
