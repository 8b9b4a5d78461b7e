import Missive.Proofs.Grammar.Parsing

/-!
# Prefixes of programs

The parser goes on for as long as what it has read can still become a program, and no longer.

Whether a token fits depends on the kinds of the tokens only.  `State.bare` forgets everything else
about a state, and `next?_congr` says that states which are the same when they are bare take the
same kinds of tokens.  A whole number that is too large is the exception: the state behind it takes
nothing, though the number may well be followed by something.

* `Viable`: some program begins with tokens of these kinds.
* `exists_reaches_result`: every state but one behind a number that is too large can be completed.
* `viable_of_foldlM`: the tokens that have been read are viable.
* `not_viable_of_refuses`: with a token at which the parser stops they are not.
-/

namespace Missive

namespace Grammar

/-- Some program begins with words of the given kinds. -/
def Viable (kinds : List TokenKind) : Prop :=
  ∃ ws e, Program .closed ws e ∧ kinds <+: ws.map Word.kind

end Grammar

namespace Parser

open Grammar

/-! ## Numbers that are too large -/

/-- A whole number that is too large. -/
def TooLarge (token : Token) : Prop :=
  token.kind = .number ∧ greatestInt < natOfDigits token.text.toList

/-- The state stands behind a whole number that is too large. -/
def State.Oversized (state : State) : Prop :=
  ∃ literal, state.mode = .oversized literal

/-! ## States without texts -/

/-- An enclosure without what it holds. -/
def Enclosure.bare : Enclosure → Enclosure
  | paren => paren
  | items bracket _ => items bracket []
  | entry _ _ => entry [] ""

/-- A mode without expressions and texts. -/
def Mode.bare : Mode → Mode
  | mapKey _ => mapKey []
  | mapColon _ _ => mapColon [] ""
  | closed _ | oversized _ => closed .nil
  | mode => mode

/-- Open brackets without what they hold and what waits around them. -/
def bareEnclosures (enclosures : List (Enclosure × List Operator)) :
    List (Enclosure × List Operator) :=
  enclosures.map fun enclosure => (enclosure.1.bare, [])

/-- The brackets that are open and what the next token is about. -/
def State.bare (state : State) : State where
  operators := []
  enclosures := bareEnclosures state.enclosures
  mode := state.mode.bare

@[simp] lemma Enclosure.bare_bare (enclosure : Enclosure) :
    enclosure.bare.bare = enclosure.bare := by
  cases enclosure <;> rfl

@[simp] lemma Mode.bare_bare (mode : Mode) : mode.bare.bare = mode.bare := by
  cases mode <;> rfl

@[simp] lemma Mode.bare_closed (e : Expr) : (closed e).bare = closed .nil := rfl

@[simp] lemma numberMode_bare (literal : Token) : (numberMode literal).bare = .closed .nil := by
  simp only [numberMode]
  split <;> rfl

@[simp] lemma bareEnclosures_cons (enclosure : Enclosure) (outer : List Operator)
    (enclosures : List (Enclosure × List Operator)) :
    bareEnclosures ((enclosure, outer) :: enclosures)
      = (enclosure.bare, []) :: bareEnclosures enclosures := rfl

@[simp] lemma bareEnclosures_bareEnclosures (enclosures : List (Enclosure × List Operator)) :
    bareEnclosures (bareEnclosures enclosures) = bareEnclosures enclosures := by
  simp [bareEnclosures, Function.comp_def]

@[simp] lemma State.bare_bare (state : State) : state.bare.bare = state.bare := by
  simp [State.bare]

@[simp] lemma State.bare_withMode (state : State) (mode : Mode) :
    (state.withMode mode).bare = state.bare.withMode mode.bare := rfl

@[simp] lemma State.bare_enter (state : State) (enclosure : Enclosure) :
    (state.enter enclosure).bare = state.bare.enter enclosure.bare := rfl

@[simp] lemma State.bare_await (state : State) (operator : Operator) :
    (state.await operator).bare = state.bare.withMode .value := rfl

section

variable {token token' : Token} (hkind : token.kind = token'.kind)

include hkind

lemma beginValue?_bare (state : State) :
    (state.beginValue? token).map State.bare
      = (state.bare.beginValue? token').map State.bare := by
  unfold State.beginValue?
  rw [hkind]
  cases token'.kind <;> simp

lemma key?_bare (state : State) (earlier earlier' : List (String × Expr)) :
    (state.key? earlier token).map State.bare
      = (state.bare.key? earlier' token').map State.bare := by
  unfold State.key?
  rw [hkind]
  split
  · simp only [Option.map_some, State.bare_withMode, State.bare_bare]
    rfl
  · rfl

lemma send?_bare (state : State) (e e' : Expr) :
    (state.send? e token).map State.bare = (state.bare.send? e' token').map State.bare := by
  unfold State.send?
  rw [hkind]
  split
  · simp [State.bare]
  · rfl

lemma follow?_bare (state : State) (e e' : Expr) :
    (state.follow? e token).map State.bare
      = (state.bare.follow? e' token').map State.bare := by
  have hsend := send?_bare hkind state e e'
  obtain ⟨operators, enclosures, mode⟩ := state
  unfold State.follow?
  rw [hkind]
  match enclosures with
  | [] => exact hsend
  | (.paren, outer) :: enclosures =>
      simp only [State.bare, bareEnclosures_cons, Enclosure.bare] at hsend ⊢
      split
      · simp [State.bare]
      · exact hsend
  | (.items bracket earlier, outer) :: enclosures =>
      simp only [State.bare, bareEnclosures_cons, Enclosure.bare] at hsend ⊢
      split
      · simp [State.bare]
      · split
        · simp [State.bare, Enclosure.bare]
        · exact hsend
  | (.entry earlier key, outer) :: enclosures =>
      simp only [State.bare, bareEnclosures_cons, Enclosure.bare]
      split
      · simp [State.bare]
      · split
        · simp [State.bare, Mode.bare]
        · rfl

/-- **Kinds decide.**  A state takes the same kinds of tokens when it is bare. -/
lemma next?_bare {state : State} (hstate : ¬ state.Oversized) :
    (state.next? token).map State.bare = (state.bare.next? token').map State.bare := by
  have henter : ∀ enclosure : Enclosure, enclosure.bare = enclosure →
      ((state.enter enclosure).beginValue? token).map State.bare
        = ((state.bare.enter enclosure).beginValue? token').map State.bare := by
    intro enclosure hbare
    have hbegin := beginValue?_bare hkind (state.enter enclosure)
    rwa [State.bare_enter, hbare] at hbegin
  unfold State.next?
  have hmode : state.bare.mode = state.mode.bare := rfl
  rw [hmode, hkind]
  cases hcase : state.mode with
  | value => exact beginValue?_bare hkind state
  | parenOpened =>
      simp only [Mode.bare]
      split
      · simp
      · exact henter .paren rfl
  | bracketOpened bracket =>
      simp only [Mode.bare]
      split
      · simp
      · exact henter (.items bracket []) rfl
  | mapOpened =>
      simp only [Mode.bare]
      split
      · simp
      · exact key?_bare hkind state _ _
  | mapKey earlier => exact key?_bare hkind state _ _
  | mapColon earlier key =>
      simp only [Mode.bare]
      split
      · simp
        rfl
      · rfl
  | verb =>
      simp only [Mode.bare]
      split <;> simp
  | closed e =>
      simp only [Mode.bare]
      split
      · simp
      · exact follow?_bare hkind state _ _
  | oversized literal => exact absurd ⟨literal, hcase⟩ hstate

/-- States that are the same when they are bare take the same kinds of tokens and stay the same. -/
lemma next?_congr {state state' : State} (hbare : state.bare = state'.bare)
    (hstate : ¬ state.Oversized) (hstate' : ¬ state'.Oversized) :
    (state.next? token).map State.bare = (state'.next? token').map State.bare := by
  rw [next?_bare hkind hstate, hbare, next?_bare (rfl : token'.kind = token'.kind) hstate']

end

/-- Whether a text may end in a state does not depend on what has been read. -/
lemma isSome_result?_congr {state state' : State} (hbare : state.bare = state'.bare)
    (hstate : ¬ state.Oversized) (hresult : state'.result?.isSome) : state.result?.isSome := by
  obtain ⟨operators, enclosures, mode⟩ := state
  obtain ⟨operators', enclosures', mode'⟩ := state'
  simp only [State.bare, State.mk.injEq] at hbare
  obtain ⟨-, henclosures, hmode⟩ := hbare
  unfold State.result? at hresult
  split at hresult <;> simp only [Option.isSome_some, Option.isSome_none, reduceCtorEq] at hresult
  rename_i hclosed hnone
  simp only at hclosed hnone
  subst hclosed hnone
  obtain rfl : enclosures = [] := List.map_eq_nil_iff.mp henclosures
  cases mode with
  | closed e => rfl
  | oversized literal => exact absurd ⟨literal, rfl⟩ hstate
  | _ => cases hmode

/-! ## Behind a number that is too large -/

section

variable {state next : State} {token : Token}

lemma numberMode_eq_oversized {literal : Token} :
    numberMode token = .oversized literal ↔
      literal = token ∧ greatestInt < natOfDigits token.text.toList := by
  simp only [numberMode]
  split
  · rename_i hfits
    simp [hfits]
  · rename_i hlarge
    simp [Nat.lt_of_not_le hlarge, eq_comm]

/-- No token follows a number that is too large. -/
lemma not_oversized_of_next? (h : state.next? token = some next) : ¬ state.Oversized := by
  rintro ⟨literal, hmode⟩
  rw [State.next?, hmode] at h
  cases h

/-- What a token does to the mode: a number decides it, and no other token leads behind a number
that is too large. -/
def Turns (token : Token) (next : State) : Prop :=
  (token.kind = .number ∧ next.mode = numberMode token) ∨
    (token.kind ≠ .number ∧ ¬ next.Oversized)

lemma turns_of_kind {kind : TokenKind} (hkind : token.kind = kind) (hne : kind ≠ .number)
    (hmode : ∀ literal, next.mode ≠ .oversized literal) : Turns token next :=
  .inr ⟨hkind ▸ hne, fun ⟨literal, h⟩ => hmode literal h⟩

lemma turns_of_verb (hkind : token.kind = .verb ∨ token.kind = .name)
    (hmode : ∀ literal, next.mode ≠ .oversized literal) : Turns token next := by
  obtain hkind | hkind := hkind
  · exact turns_of_kind hkind nofun hmode
  · exact turns_of_kind hkind nofun hmode

lemma turns_of_close {bracket : Bracket} (hkind : token.kind = bracket.close)
    (hmode : ∀ literal, next.mode ≠ .oversized literal) : Turns token next :=
  turns_of_kind hkind (by cases bracket <;> exact nofun) hmode

lemma turns_of_beginValue? (h : state.beginValue? token = some next) : Turns token next := by
  unfold State.beginValue? at h
  split at h <;> rename_i hkind <;> cases h
  case h_6 => exact .inl ⟨hkind, rfl⟩
  all_goals exact turns_of_kind hkind nofun nofun

lemma turns_of_key? {earlier : List (String × Expr)} (h : state.key? earlier token = some next) :
    Turns token next := by
  unfold State.key? at h
  split at h <;> rename_i hkind <;> cases h
  exact turns_of_kind hkind nofun nofun

lemma turns_of_send? {e : Expr} (h : state.send? e token = some next) : Turns token next := by
  unfold State.send? at h
  split at h <;> rename_i hkind <;> cases h
  exact turns_of_verb hkind nofun

lemma turns_of_follow? {e : Expr} (h : state.follow? e token = some next) : Turns token next := by
  unfold State.follow? at h
  split at h
  · exact turns_of_send? h
  · split at h <;> rename_i hkind
    · cases h
      exact turns_of_kind hkind nofun nofun
    · exact turns_of_send? h
  · split at h <;> rename_i hclose
    · cases h
      exact turns_of_close hclose nofun
    · split at h <;> rename_i hkind
      · cases h
        exact turns_of_kind hkind nofun nofun
      · exact turns_of_send? h
  · split at h <;> rename_i hclose
    · cases h
      exact turns_of_kind hclose nofun nofun
    · split at h <;> rename_i hkind <;> cases h
      exact turns_of_kind hkind nofun nofun

lemma turns_of_next? (h : state.next? token = some next) : Turns token next := by
  unfold State.next? at h
  split at h
  · exact turns_of_beginValue? h
  · split at h <;> rename_i hkind
    · cases h
      exact turns_of_kind hkind nofun nofun
    · exact turns_of_beginValue? h
  · split at h <;> rename_i hkind
    · cases h
      exact turns_of_close hkind nofun
    · exact turns_of_beginValue? h
  · split at h <;> rename_i hkind
    · cases h
      exact turns_of_kind hkind nofun nofun
    · exact turns_of_key? h
  · exact turns_of_key? h
  · split at h <;> rename_i hkind <;> cases h
    exact turns_of_kind hkind nofun nofun
  · split at h <;> rename_i hkind <;> cases h
    exact turns_of_verb hkind nofun
  · split at h <;> rename_i hkind
    · cases h
      exact turns_of_kind hkind nofun nofun
    · exact turns_of_follow? h
  · cases h

/-- A state stands behind a number that is too large if and only if that was the last token. -/
lemma oversized_iff (h : state.next? token = some next) {literal : Token} :
    next.mode = .oversized literal ↔ literal = token ∧ TooLarge token := by
  obtain ⟨hkind, hmode⟩ | ⟨hkind, hmode⟩ := turns_of_next? h
  · rw [hmode, numberMode_eq_oversized]
    simp [TooLarge, hkind]
  · constructor
    · intro hoversized
      exact absurd ⟨literal, hoversized⟩ hmode
    · rintro ⟨-, hlarge⟩
      exact absurd hlarge.1 hkind

end

/-! ## What has been read -/

section

variable {tokens tokens' : List Token} {state state' last last' : State}

/-- Tokens of the same kinds lead to states that are the same when they are bare. -/
lemma bare_of_foldlM (hkinds : tokens.map Token.kind = tokens'.map Token.kind)
    (hbare : state.bare = state'.bare) (h : tokens.foldlM State.next? state = some last)
    (h' : tokens'.foldlM State.next? state' = some last') : last.bare = last'.bare := by
  induction tokens generalizing tokens' state state' with
  | nil =>
      obtain rfl := List.map_eq_nil_iff.mp hkinds.symm
      cases h
      cases h'
      exact hbare
  | cons token tokens ih =>
      obtain ⟨token', tokens', rfl, hkind, hkinds⟩ := List.map_eq_cons_iff.mp hkinds.symm
      rw [List.foldlM_cons] at h h'
      obtain ⟨next, hnext, hlast⟩ := Option.bind_eq_some_iff.mp h
      obtain ⟨next', hnext', hlast'⟩ := Option.bind_eq_some_iff.mp h'
      have hbare' := next?_congr hkind.symm hbare (not_oversized_of_next? hnext)
        (not_oversized_of_next? hnext')
      rw [hnext, hnext'] at hbare'
      exact ih hkinds.symm (Option.some.inj hbare') hlast hlast'

/-- Behind a number that is too large, that number is the last token. -/
lemma exists_concat_of_oversized (hread : tokens.foldlM State.next? start = some state)
    {literal : Token} (hmode : state.mode = .oversized literal) :
    ∃ front before, tokens = front ++ [literal] ∧
      front.foldlM State.next? start = some before ∧ before.next? literal = some state ∧
      TooLarge literal := by
  obtain rfl | ⟨front, last, rfl⟩ := tokens.eq_nil_or_concat
  · cases hread
    cases hmode
  · rw [List.concat_eq_append, List.foldlM_append] at hread
    obtain ⟨before, hbefore, hlast⟩ := Option.bind_eq_some_iff.mp hread
    obtain ⟨_, hnext, ⟨⟩⟩ := Option.bind_eq_some_iff.mp hlast
    obtain ⟨rfl, hlarge⟩ := (oversized_iff hnext).mp hmode
    exact ⟨front, before, List.concat_eq_append, hbefore, hnext, hlarge⟩

end

/-! ## Every state can be completed -/

/-- There are tokens for all words. -/
lemma exists_tokens (ws : List Word) : ∃ tokens : List Token, tokens.map Token.word = ws := by
  refine ⟨ws.map fun w => ⟨w.kind, w.text, .start, .start⟩, ?_⟩
  simp [Function.comp_def, Token.word]

/-- Behind a closed expression all brackets can be closed. -/
lemma exists_reaches_result_of_closed (enclosures : List (Enclosure × List Operator)) :
    ∀ (operators : List Operator) (e : Expr), ∃ ws last,
      Reaches ⟨operators, enclosures, .closed e⟩ ws last ∧ last.result?.isSome := by
  induction enclosures with
  | nil => exact fun operators e => ⟨[], _, .refl _, rfl⟩
  | cons enclosure enclosures ih =>
      intro operators e
      obtain ⟨enclosure, outer⟩ := enclosure
      have hclose : ∀ (kind : TokenKind) (e' : Expr),
          (∀ token : Token, token.kind = kind →
            State.next? ⟨operators, (enclosure, outer) :: enclosures, .closed e⟩ token
              = some ⟨outer, enclosures, .closed e'⟩) →
          ∃ ws last, Reaches ⟨operators, (enclosure, outer) :: enclosures, .closed e⟩ ws last ∧
            last.result?.isSome := by
        intro kind e' hnext
        obtain ⟨ws, last, hreaches, hresult⟩ := ih outer e'
        refine ⟨⟨kind, ""⟩ :: ws, last, .cons _ (fun token htoken => hnext token ?_) hreaches,
          hresult⟩
        exact congrArg Word.kind htoken
      cases enclosure with
      | paren =>
          refine hclose .closeParen (settle operators e) fun token hkind => ?_
          simp [State.next?, State.follow?, hkind]
      | items bracket earlier =>
          refine hclose bracket.close (bracket.expr (settle operators e :: earlier).reverse)
            fun token hkind => ?_
          cases bracket <;> simp [State.next?, State.follow?, hkind, Bracket.close]
      | entry earlier key =>
          refine hclose .closeBlock (.map ((key, settle operators e) :: earlier).reverse)
            fun token hkind => ?_
          simp [State.next?, State.follow?, hkind]

/-- Behind at most three more words there is a closed expression. -/
lemma exists_reaches_closed {state : State} (hstate : ¬ state.Oversized) :
    ∃ ws operators enclosures e, Reaches state ws ⟨operators, enclosures, .closed e⟩ := by
  obtain ⟨operators, enclosures, mode⟩ := state
  have hname : ∀ operators enclosures, Reaches ⟨operators, enclosures, .value⟩ [⟨.name, "x"⟩]
      ⟨operators, enclosures, .closed (.name "x")⟩ :=
    fun operators enclosures => .single fun token htoken => next?_literal (by rw [htoken]; rfl)
  have hone : ∀ (kind : TokenKind) (e : Expr),
      (∀ token : Token, token.kind = kind →
        State.next? ⟨operators, enclosures, mode⟩ token
          = some ⟨operators, enclosures, .closed e⟩) →
      ∃ ws operators' enclosures' e', Reaches ⟨operators, enclosures, mode⟩ ws
        ⟨operators', enclosures', .closed e'⟩ :=
    fun kind e hnext => ⟨[⟨kind, ""⟩], _, _, _,
      .single fun token htoken => hnext token (congrArg Word.kind htoken)⟩
  cases mode with
  | value => exact ⟨_, _, _, _, hname operators enclosures⟩
  | parenOpened =>
      refine hone .closeParen .nil fun token hkind => ?_
      simp [State.next?, hkind, State.withMode]
  | bracketOpened bracket =>
      refine hone bracket.close (bracket.expr []) fun token hkind => ?_
      simp [State.next?, hkind, State.withMode]
  | mapOpened =>
      refine hone .closeBlock (.map []) fun token hkind => ?_
      simp [State.next?, hkind, State.withMode]
  | mapKey earlier =>
      exact ⟨⟨.string, ""⟩ :: ⟨.colon, ""⟩ :: _, _, _, _, reaches_entry rfl rfl (hname _ _)⟩
  | mapColon earlier key =>
      refine ⟨⟨.colon, ""⟩ :: _, _, _, _, .cons _ (fun token htoken => ?_)
        (hname [] ((.entry earlier key, operators) :: enclosures))⟩
      exact if_pos (congrArg Word.kind htoken)
  | verb =>
      refine ⟨⟨.name, "x"⟩ :: _, _, _, _, .cons _ (fun token htoken => ?_)
        (hname (.message "x" :: operators) enclosures)⟩
      have hkind : token.kind = .name := congrArg Word.kind htoken
      have htext : token.text = "x" := congrArg Word.text htoken
      simp [State.next?, hkind, htext, State.await]
  | closed e => exact ⟨[], _, _, _, .refl _⟩
  | oversized literal => exact absurd ⟨literal, rfl⟩ hstate

/-- **Completion.**  Every state but one behind a number that is too large can be completed. -/
lemma exists_reaches_result {state : State} (hstate : ¬ state.Oversized) :
    ∃ ws last, Reaches state ws last ∧ last.result?.isSome := by
  obtain ⟨ws, operators, enclosures, e, hclosed⟩ := exists_reaches_closed hstate
  obtain ⟨us, last, hlast, hresult⟩ := exists_reaches_result_of_closed enclosures operators e
  exact ⟨ws ++ us, last, hclosed.append hlast, hresult⟩

/-! ## What can still become a program -/

section

variable {tokens : List Token} {state : State} {token : Token}

lemma viable_of_not_oversized (hread : tokens.foldlM State.next? start = some state)
    (hstate : ¬ state.Oversized) : Viable (tokens.map Token.kind) := by
  obtain ⟨ws, last, hreaches, hresult⟩ := exists_reaches_result hstate
  obtain ⟨more, rfl⟩ := exists_tokens ws
  obtain ⟨e, he⟩ := Option.isSome_iff_exists.mp hresult
  have hlast : (tokens ++ more).foldlM State.next? start = some last := by
    rw [List.foldlM_append, hread]
    exact hreaches rfl
  refine ⟨_, e, .intro ((start_reads.foldlM hlast).sending he) (rfl : Word.eof.kind = .eof), ?_⟩
  simp [Function.comp_def]

/-- **What has been read is viable.** -/
theorem viable_of_foldlM (hread : tokens.foldlM State.next? start = some state) :
    Viable (tokens.map Token.kind) := by
  by_cases hstate : state.Oversized
  · -- a number that is too large can be replaced by a small one
    obtain ⟨literal, hmode⟩ := hstate
    obtain ⟨front, before, rfl, hbefore, hnext, -⟩ := exists_concat_of_oversized hread hmode
    have hnot := not_oversized_of_next? hnext
    have hkind : literal.kind = Token.kind { literal with text := "0" } := rfl
    have hbare := next?_congr hkind rfl hnot hnot
    rw [hnext] at hbare
    obtain ⟨after, hafter, -⟩ := Option.map_eq_some_iff.mp hbare.symm
    have hzero : ¬ greatestInt < natOfDigits "0".toList := by decide
    have hsmall : ¬ after.Oversized :=
      fun ⟨_, hmode⟩ => hzero ((oversized_iff hafter).mp hmode).2.2
    have hread' : (front ++ [{ literal with text := "0" }]).foldlM State.next? start
        = some after := by
      rw [List.foldlM_append, hbefore]
      exact congrArg (· >>= pure) hafter
    simpa using viable_of_not_oversized hread' hsmall
  · exact viable_of_not_oversized hread hstate

/-- The parser stops at a token.  It does not fit, nor is it the end of a complete text. -/
def State.Refuses (state : State) (token : Token) : Prop :=
  state.next? token = none ∧ (token.kind = .eof → state.result? = none)

/-- The parser reads the beginning of a program up to any of its words. -/
lemma exists_foldlM_of_viable {kinds : List TokenKind} {kind : TokenKind}
    (h : Viable (kinds ++ [kind])) :
    ∃ (tokens : List Token) (state : State), tokens.map Token.kind = kinds ∧
      tokens.foldlM State.next? start = some state ∧
      ((kind = .eof ∧ state.result?.isSome) ∨
        ∃ token : Token, token.kind = kind ∧ (state.next? token).isSome) := by
  obtain ⟨_, e, ⟨hsending, heof⟩, hprefix⟩ := h
  obtain ⟨last, hreaches, hresult⟩ := exists_reaches_of_sending hsending
  rename_i eof us
  obtain ⟨tokens, rfl⟩ := exists_tokens us
  have hlast := hreaches rfl
  have hkinds : (tokens.map Token.word ++ [eof]).map Word.kind
      = tokens.map Token.kind ++ [.eof] := by
    simp [heof, Function.comp_def]
  rw [hkinds, List.prefix_concat_iff] at hprefix
  obtain hwhole | ⟨rest, hrest⟩ := hprefix
  · obtain ⟨rfl, hkind⟩ := List.append_inj' hwhole rfl
    exact ⟨tokens, last, rfl, hlast, .inl ⟨List.singleton_inj.mp hkind, by rw [hresult]; rfl⟩⟩
  · rw [List.append_assoc] at hrest
    obtain ⟨front, back, rfl, rfl, hback⟩ := List.map_eq_append_iff.mp hrest.symm
    obtain ⟨token, back, rfl, rfl, -⟩ := List.map_eq_cons_iff.mp hback
    rw [List.foldlM_append] at hlast
    obtain ⟨before, hbefore, hlast⟩ := Option.bind_eq_some_iff.mp hlast
    obtain ⟨after, hafter, -⟩ := Option.bind_eq_some_iff.mp hlast
    exact ⟨front, before, rfl, hbefore, .inr ⟨token, rfl, by rw [hafter]; rfl⟩⟩

/-- **What is refused is not viable.** -/
theorem not_viable_of_refuses (hread : tokens.foldlM State.next? start = some state)
    (hstate : ¬ state.Oversized) (hrefuses : state.Refuses token) :
    ¬ Viable (tokens.map Token.kind ++ [token.kind]) := by
  intro h
  obtain ⟨tokens', state', hkinds, hread', hnext⟩ := exists_foldlM_of_viable h
  have hbare := bare_of_foldlM hkinds.symm rfl hread hread'
  obtain ⟨hkind, hresult⟩ | ⟨token', hkind, hnext⟩ := hnext
  · have hsome := isSome_result?_congr hbare hstate hresult
    rw [hrefuses.2 hkind] at hsome
    cases hsome
  · obtain ⟨next', hnext'⟩ := Option.isSome_iff_exists.mp hnext
    have hmap := next?_congr hkind.symm hbare hstate (not_oversized_of_next? hnext')
    rw [hrefuses.1, hnext'] at hmap
    cases hmap

end

end Parser

end Missive
