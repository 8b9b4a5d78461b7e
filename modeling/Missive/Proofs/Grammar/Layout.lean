import Missive.Expr.Parser
import Missive.Proofs.Token.Layout
import Mathlib

/-!
# Layout does not matter

The parser copies the places of tokens into its errors and makes no other use of them.  `unplaced`
forgets places, in tokens, states and errors, and reading a token commutes with it.  With that the
words of a text decide what becomes of it, and a text whose tokens are laid out with other blanks
has the same words.

* `State.step_unplaced`: one token.
* `run_unplaced`: all tokens, by induction on their number.
* `parse_layOut`: texts that differ in their blanks only.
-/

namespace Missive

/-! ## Without places -/

/-- A word as a token, as if it stood at the head of a text. -/
def Word.token (word : Word) : Token :=
  ⟨word.kind, word.text, .start, .start⟩

/-- The token as if it stood at the head of a text. -/
def Token.unplaced (token : Token) : Token :=
  token.word.token

@[simp] lemma Token.unplaced_kind (token : Token) : token.unplaced.kind = token.kind := rfl

@[simp] lemma Token.unplaced_text (token : Token) : token.unplaced.text = token.text := rfl

/-- The error of the parser without the place of the token that it is about. -/
def ReadError.unplaced : ReadError → ReadError
  | scan error => scan error
  | unexpectedToken token expected => unexpectedToken token.unplaced expected
  | invalidLiteral token => invalidLiteral token.unplaced

namespace Parser

/-- A mode without places. -/
def Mode.unplaced : Mode → Mode
  | oversized literal => oversized literal.unplaced
  | mode => mode

namespace State

/-- A state without places. -/
def unplaced (state : State) : State :=
  state.withMode state.mode.unplaced

variable (state : State) (token : Token)

lemma unplaced_withMode (mode : Mode) :
    (state.withMode mode).unplaced = state.withMode mode.unplaced := rfl

lemma numberMode_unplaced : (numberMode token).unplaced = numberMode token.unplaced := by
  rw [numberMode, numberMode, Token.unplaced_text]
  split_ifs <;> rfl

/-! ## One token -/

/-- A choice by the kind of a token is made alike with and without places. -/
lemma map_ite_unplaced {p : Prop} {decision decision' : Decidable p} {x x' y y' : Option State}
    (hx : x.map unplaced = x') (hy : y.map unplaced = y') :
    (@ite _ p decision x y).map unplaced = @ite _ p decision' x' y' := by
  by_cases hp : p
  · rwa [if_pos hp, if_pos hp]
  · rwa [if_neg hp, if_neg hp]

lemma beginValue?_unplaced :
    (state.beginValue? token).map unplaced = state.beginValue? token.unplaced := by
  unfold beginValue?
  rw [Token.unplaced_kind]
  cases token.kind with
  | number => rw [Option.map_some, unplaced_withMode, numberMode_unplaced]
  | _ => rfl

lemma key?_unplaced (earlier : List (String × Expr)) :
    (state.key? earlier token).map unplaced = state.key? earlier token.unplaced :=
  map_ite_unplaced rfl rfl

lemma follow?_unplaced (e : Expr) :
    (state.follow? e token).map unplaced = state.follow? e token.unplaced := by
  have hsend : (state.send? e token).map unplaced = state.send? e token.unplaced :=
    map_ite_unplaced rfl rfl
  obtain ⟨operators, enclosures, mode⟩ := state
  match enclosures with
  | [] => exact hsend
  | (.paren, outer) :: enclosures => exact map_ite_unplaced rfl hsend
  | (.items bracket earlier, outer) :: enclosures =>
      exact map_ite_unplaced rfl (map_ite_unplaced rfl hsend)
  | (.entry earlier key, outer) :: enclosures =>
      exact map_ite_unplaced rfl (map_ite_unplaced rfl rfl)

/-- The next state but for places. -/
lemma next?_unplaced :
    (state.next? token).map unplaced = state.unplaced.next? token.unplaced := by
  obtain ⟨operators, enclosures, mode⟩ := state
  cases mode with
  | value => exact beginValue?_unplaced _ token
  | parenOpened => exact map_ite_unplaced rfl (beginValue?_unplaced _ token)
  | bracketOpened bracket => exact map_ite_unplaced rfl (beginValue?_unplaced _ token)
  | mapOpened => exact map_ite_unplaced rfl (key?_unplaced _ token [])
  | mapKey earlier => exact key?_unplaced _ token earlier
  | mapColon earlier key => exact map_ite_unplaced rfl rfl
  | verb => exact map_ite_unplaced rfl rfl
  | closed e => exact map_ite_unplaced rfl (follow?_unplaced _ token _)
  | oversized literal => rfl

/-- Why the parser stops, but for the place. -/
lemma refuse_unplaced : (state.refuse token).unplaced = state.unplaced.refuse token.unplaced := by
  obtain ⟨operators, enclosures, mode⟩ := state
  cases mode <;> rfl

/-- **One token.**  What the parser makes of a token does not depend on where the token stands. -/
lemma step_unplaced :
    state.unplaced.step token.unplaced
      = ((state.step token).mapError ReadError.unplaced).map unplaced := by
  rw [step, step, ← next?_unplaced, ← refuse_unplaced]
  cases state.next? token <;> rfl

end State

/-! ## All tokens -/

lemma foldlM_unplaced (items : List Token) (state : State) :
    (items.map Token.unplaced).foldlM State.step state.unplaced
      = ((items.foldlM State.step state).mapError ReadError.unplaced).map State.unplaced := by
  induction items generalizing state with
  | nil => rfl
  | cons token items ih =>
      rw [List.map_cons, List.foldlM_cons, List.foldlM_cons, State.step_unplaced]
      cases state.step token with
      | error error => rfl
      | ok next => exact ih next

lemma finish_unplaced (state : State) (eof : Token) :
    state.unplaced.finish eof.unplaced = (state.finish eof).mapError ReadError.unplaced := by
  have hresult : state.unplaced.result? = state.result? := by
    obtain ⟨operators, enclosures, mode⟩ := state
    cases mode <;> rfl
  rw [State.finish, State.finish, hresult, ← State.refuse_unplaced]
  cases state.result? <;> rfl

/-- **All tokens.**  What the parser makes of tokens does not depend on where they stand. -/
lemma run_unplaced (items : List Token) (eof : Token) :
    (run ⟨items, .ok eof⟩).mapError ReadError.unplaced
      = run ⟨items.map Token.unplaced, .ok eof.unplaced⟩ := by
  have hstart : start.unplaced = start := rfl
  have hitems := foldlM_unplaced items start
  rw [hstart] at hitems
  simp only [run, hitems]
  cases items.foldlM State.step start with
  | error error => rfl
  | ok state => exact (finish_unplaced state eof).symm

/-- The words of a text decide what the parser makes of it. -/
lemma run_congr {items items' : List Token} {eof eof' : Token}
    (h : (items ++ [eof]).map Token.word = (items' ++ [eof']).map Token.word) :
    (run ⟨items, .ok eof⟩).mapError ReadError.unplaced
      = (run ⟨items', .ok eof'⟩).mapError ReadError.unplaced := by
  rw [List.map_append, List.map_append] at h
  obtain ⟨hitems, heof⟩ := List.append_inj' h rfl
  have hunplaced : ∀ tokens : List Token,
      tokens.map Token.unplaced = (tokens.map Token.word).map Word.token :=
    fun tokens => List.map_map.symm
  rw [run_unplaced, run_unplaced, hunplaced, hunplaced, hitems, Token.unplaced, Token.unplaced,
    List.singleton_inj.mp heof]

end Parser

/-! ## Texts -/

/-- **Layout does not matter.**  Let a text have tokens up to its end.  Write the tokens down again,
with any blanks before the first of them and behind each, but with none between two of them only if
there are none in the text, either.  Then the scanner finds the same words, and the parser finds the
same tree or fails with the same error, but for its place. -/
theorem parse_layOut {source : String} {tokens : List Token} {eof : Token}
    {before : List Char} {gaps : List (List Char)}
    (h : Tokens.ofText source = ⟨tokens, .ok eof⟩)
    (hbefore : ∀ c ∈ before, Text.isBlank c = true) (hgaps : Gaps tokens gaps) :
    ∃ tokens' eof',
      Tokens.ofText (String.ofList (before ++ layOut tokens gaps)) = ⟨tokens', .ok eof'⟩ ∧
      (tokens' ++ [eof']).map Token.word = (tokens ++ [eof]).map Token.word ∧
      (parse (String.ofList (before ++ layOut tokens gaps))).mapError ReadError.unplaced
        = (parse source).mapError ReadError.unplaced := by
  have hscans : Scans (String.ofList (before ++ layOut tokens gaps)).toList
      (tokens.map Token.word) := by
    rw [String.toList_ofList]
    exact (Tokens.scans_layOut h hgaps).1.blanks hbefore
  have hwords := Tokens.words?_ofText.mpr ⟨_, rfl, hscans⟩
  have heof : eof.word = Word.eof := by
    have hsource : (Tokens.ofText source).words? = some ((tokens ++ [eof]).map Token.word) := by
      rw [h]
      rfl
    obtain ⟨ws, hws, -⟩ := Tokens.words?_ofText.mp hsource
    rw [List.map_append] at hws
    exact List.singleton_inj.mp (List.append_inj' hws rfl).2
  rw [parse, parse, h]
  cases hlaid : Tokens.ofText (String.ofList (before ++ layOut tokens gaps)) with
  | mk tokens' ending =>
      rw [hlaid] at hwords
      cases ending with
      | error error => cases hwords
      | ok eof' =>
          have htokens : (tokens ++ [eof]).map Token.word = tokens.map Token.word ++ [.eof] := by
            rw [List.map_append, List.map_singleton, heof]
          have hsame := (Option.some.inj hwords).trans htokens.symm
          exact ⟨tokens', eof', rfl, hsame, Parser.run_congr hsame⟩

/-- A number and a verb that touch, and a name. -/
def touchingSource : String :=
  "1.x y"

/-- The tokens of the source. -/
def touchingTokens : List Token :=
  [⟨.number, "1", ⟨1, 1⟩, ⟨1, 2⟩⟩, ⟨.verb, ".x", ⟨1, 2⟩, ⟨1, 4⟩⟩, ⟨.name, "y", ⟨1, 5⟩, ⟨1, 6⟩⟩]

/-- No blanks, a tab and a newline, and a space. -/
def wideGaps : List (List Char) :=
  [[], ['\t', '\n'], [' ']]

lemma isBlank_newline : Text.isBlank '\n' = true := by
  cbv

lemma gaps_touchingTokens : Gaps touchingTokens wideGaps where
  length := rfl
  blank := by
    have htab : Text.isBlank '\t' = true := by cbv
    have hspace : Text.isBlank ' ' = true := by cbv
    simp [wideGaps, htab, hspace, isBlank_newline]
  apart i token next htoken hnext hgap := by
    rcases i with _ | _ | _ | i
    · cases htoken
      cases hnext
      rfl
    · cases hgap
    · cases hgap
    · cases htoken

/-- With the name on a line of its own the source is still the same program. -/
theorem parse_layOut_touchingSource :
    String.ofList (['\n'] ++ layOut touchingTokens wideGaps) = "\n1.x\t\ny " ∧
      parse "\n1.x\t\ny " = .ok (.send (.int 1) ".x" (.name "y")) := by
  have htext : String.ofList (['\n'] ++ layOut touchingTokens wideGaps) = "\n1.x\t\ny " := by
    decide
  have htokens : Tokens.ofText touchingSource
      = ⟨touchingTokens, .ok ⟨.eof, "", ⟨1, 6⟩, ⟨1, 6⟩⟩⟩ := by
    cbv
  have hparse : parse touchingSource = .ok (.send (.int 1) ".x" (.name "y")) := by
    cbv
  have hbefore : ∀ c ∈ ['\n'], Text.isBlank c = true := by
    simpa using isBlank_newline
  obtain ⟨-, -, -, -, hsame⟩ := parse_layOut htokens hbefore gaps_touchingTokens
  rw [htext, hparse] at hsame
  refine ⟨htext, ?_⟩
  cases hlaid : parse "\n1.x\t\ny " with
  | error error =>
      rw [hlaid] at hsame
      cases hsame
  | ok e =>
      rw [hlaid] at hsame
      exact hsame

end Missive
