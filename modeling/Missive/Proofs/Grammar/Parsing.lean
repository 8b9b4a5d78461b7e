import Missive.Proofs.Grammar.Completeness
import Missive.Proofs.Grammar.Soundness
import Mathlib.Data.Set.Subsingleton

/-!
# Parsing is the grammar

A text parses to an expression if and only if its words derive the expression.  Words derive one
expression at most, because the parser is a function; and since a pair may always be read as a part
of the `@` or the message before it, the ambiguous version of the grammar derives something from the
same words.

* `parse_derives`: all of it in one statement.
-/

namespace Missive

namespace Grammar

/-! ## Two versions, one language -/

/-- A pair may be read as a part of whatever value stands before its colon. -/
lemma exists_operand_pair {head : PairHead} : ∀ {ws : List Word} {e : Expr}, Operand head ws e →
    ∀ {c : Word} {us : List Word} {right : Expr}, c.kind = .colon → Operand head us right →
    ∃ e', Operand head (ws ++ c :: us) e'
  | _, _, .closed he, _, _, _, hc, hright => ⟨_, .pair he hc hright⟩
  | _, _, .pair hleft hc' hright', _, _, _, hc, hright => by
      obtain ⟨e', he'⟩ := exists_operand_pair hright' hc hright
      rw [List.append_assoc, List.cons_append]
      exact ⟨_, .pair hleft hc' he'⟩
  | _, _, .later ha hbody, _, _, _, hc, hright => by
      obtain ⟨e', he'⟩ := exists_operand_pair hbody hc hright
      exact ⟨_, .later ha he'⟩
  | _, _, .message hb hv hobject, _, _, _, hc, hright => by
      obtain ⟨e', he'⟩ := exists_operand_pair hobject hc hright
      exact ⟨_, .message hb hv he'⟩
  | _, _, .laterPair hhead ha hbody hc' hright', _, _, _, hc, hright => by
      obtain ⟨e', he'⟩ := exists_operand_pair hright' hc hright
      rw [List.append_assoc, List.cons_append]
      exact ⟨_, .laterPair hhead ha hbody hc' he'⟩
  | _, _, .messagePair hhead hb hv hobject hc' hright', _, _, _, hc, hright => by
      obtain ⟨e', he'⟩ := exists_operand_pair hright' hc hright
      rw [List.append_assoc, List.cons_append]
      exact ⟨_, .messagePair hhead hb hv hobject hc' he'⟩

mutual

/-- The closed phrases of the two versions have the same words. -/
theorem exists_closed {head : PairHead} (other : PairHead) : ∀ {ws : List Word} {e : Expr},
    Closed head ws e → ∃ e', Closed other ws e'
  | _, _, .nil hl hr => ⟨_, .nil hl hr⟩
  | _, _, .paren hl he hr => by
      obtain ⟨e', he'⟩ := exists_sending other he
      exact ⟨e', .paren hl he' hr⟩
  | _, _, .literal he => ⟨_, .literal he⟩
  | _, _, .empty bracket hl hr => ⟨_, .empty bracket hl hr⟩
  | _, _, .row bracket hl hes hr => by
      obtain ⟨es', hes'⟩ := exists_row other hes
      exact ⟨_, .row bracket hl hes' hr⟩
  | _, _, .emptyMap hl hr => ⟨_, .emptyMap hl hr⟩
  | _, _, .map hl hes hr => by
      obtain ⟨es', hes'⟩ := exists_entries other hes
      exact ⟨_, .map hl hes' hr⟩

/-- The values of the two versions have the same words. -/
theorem exists_operand {head : PairHead} (other : PairHead) : ∀ {ws : List Word} {e : Expr},
    Operand head ws e → ∃ e', Operand other ws e'
  | _, _, .closed he => by
      obtain ⟨e', he'⟩ := exists_closed other he
      exact ⟨e', .closed he'⟩
  | _, _, .pair hleft hc hright => by
      obtain ⟨left', hleft'⟩ := exists_closed other hleft
      obtain ⟨right', hright'⟩ := exists_operand other hright
      exact ⟨_, .pair hleft' hc hright'⟩
  | _, _, .later ha hbody => by
      obtain ⟨body', hbody'⟩ := exists_operand other hbody
      exact ⟨_, .later ha hbody'⟩
  | _, _, .message hb hv hobject => by
      obtain ⟨object', hobject'⟩ := exists_operand other hobject
      exact ⟨_, .message hb hv hobject'⟩
  | _, _, .laterPair _ ha hbody hc hright => by
      obtain ⟨body', hbody'⟩ := exists_operand other hbody
      obtain ⟨right', hright'⟩ := exists_operand other hright
      exact exists_operand_pair (.later ha hbody') hc hright'
  | _, _, .messagePair _ hb hv hobject hc hright => by
      obtain ⟨object', hobject'⟩ := exists_operand other hobject
      obtain ⟨right', hright'⟩ := exists_operand other hright
      exact exists_operand_pair (.message hb hv hobject') hc hright'

/-- The sends of the two versions have the same words. -/
theorem exists_sending {head : PairHead} (other : PairHead) : ∀ {ws : List Word} {e : Expr},
    Sending head ws e → ∃ e', Sending other ws e'
  | _, _, .value he => by
      obtain ⟨e', he'⟩ := exists_operand other he
      exact ⟨e', .value he'⟩
  | _, _, .send hsubject hv hobject => by
      obtain ⟨subject', hsubject'⟩ := exists_sending other hsubject
      obtain ⟨object', hobject'⟩ := exists_operand other hobject
      exact ⟨_, .send hsubject' hv hobject'⟩

/-- The rows of the two versions have the same words. -/
theorem exists_row {head : PairHead} (other : PairHead) : ∀ {ws : List Word} {es : List Expr},
    Row head ws es → ∃ es', Row other ws es'
  | _, _, .one he => by
      obtain ⟨e', he'⟩ := exists_sending other he
      exact ⟨_, .one he'⟩
  | _, _, .cons he hc hes => by
      obtain ⟨e', he'⟩ := exists_sending other he
      obtain ⟨es', hes'⟩ := exists_row other hes
      exact ⟨_, .cons he' hc hes'⟩

/-- The entries of the two versions have the same words. -/
theorem exists_entries {head : PairHead} (other : PairHead) :
    ∀ {ws : List Word} {es : List (String × Expr)},
    Entries head ws es → ∃ es', Entries other ws es'
  | _, _, .one hk hc he => by
      obtain ⟨e', he'⟩ := exists_operand other he
      exact ⟨_, .one hk hc he'⟩
  | _, _, .cons hk hc he hs hes => by
      obtain ⟨e', he'⟩ := exists_operand other he
      obtain ⟨es', hes'⟩ := exists_entries other hes
      exact ⟨_, .cons hk hc he' hs hes'⟩

end

/-- A program is a send and the end of the text. -/
lemma program_concat {head : PairHead} {ws : List Word} {eof : Word} {e : Expr} :
    Program head (ws ++ [eof]) e ↔ Sending head ws e ∧ eof.kind = .eof := by
  constructor
  · intro h
    generalize htext : ws ++ [eof] = text at h
    cases h with
    | intro he heof =>
        obtain ⟨rfl, hlast⟩ := List.append_inj' htext rfl
        cases hlast
        exact ⟨he, heof⟩
  · rintro ⟨he, heof⟩
    exact .intro he heof

/-- The two versions have the same programs. -/
theorem exists_program {head : PairHead} (other : PairHead) {ws : List Word} {e : Expr}
    (h : Program head ws e) : ∃ e', Program other ws e' := by
  cases h with
  | intro he heof =>
      obtain ⟨e', he'⟩ := exists_sending other he
      exact ⟨e', .intro he' heof⟩

end Grammar

/-! ## The parser and the grammar -/

namespace Parser

open Grammar

/-- A text that derives an expression is read to its end, and the result is the expression. -/
lemma exists_reaches_of_sending {ws : List Word} {e : Expr} (h : Sending .closed ws e) :
    ∃ last : State, Reaches start ws last ∧ last.result? = some e := by
  obtain ⟨ops, c, hreaches, rfl⟩ := reaches_of_sending h [] (by simp)
  exact ⟨_, hreaches, rfl⟩

/-- Words derive one expression at most. -/
lemma sending_unique {ws : List Word} {e e' : Expr} (h : Sending .closed ws e)
    (h' : Sending .closed ws e') : e = e' := by
  obtain ⟨last, hreaches, hresult⟩ := exists_reaches_of_sending h
  obtain ⟨last', hreaches', hresult'⟩ := exists_reaches_of_sending h'
  have hwords : (ws.map fun w => (⟨w.kind, w.text, Pos.start, Pos.start⟩ : Token)).map Token.word
      = ws := by
    simp [Function.comp_def, Token.word]
  have hlast : some last = some last' := (hreaches hwords).symm.trans (hreaches' hwords)
  cases hlast
  exact Option.some.inj (hresult.symm.trans hresult')

/-- The states behind the tokens of a text are the same whether or not errors are kept. -/
lemma foldlM_step_eq_ok {tokens : List Token} {state last : State} :
    tokens.foldlM State.step state = .ok last ↔ tokens.foldlM State.next? state = some last := by
  induction tokens generalizing state with
  | nil => simp [pure, Except.pure]
  | cons token tokens ih =>
      rw [List.foldlM_cons, List.foldlM_cons]
      unfold State.step
      cases state.next? token with
      | none => simp [bind, Except.bind]
      | some next => exact ih

/-- The end of a text gives the result of its state. -/
lemma State.finish_eq_ok {state : State} (eof : Token) {e : Expr} :
    state.finish eof = .ok e ↔ state.result? = some e := by
  unfold State.finish
  cases state.result? <;> simp

/-- The parser succeeds if its last state has a result. -/
lemma run_eq_ok_iff {tokens : Tokens} {eof : Token} {e : Expr} (heof : tokens.ending = .ok eof) :
    run tokens = .ok e ↔
      ∃ last, tokens.items.foldlM State.next? start = some last ∧ last.result? = some e := by
  simp only [run, heof, ← foldlM_step_eq_ok, ← State.finish_eq_ok eof]
  cases tokens.items.foldlM State.step start <;> simp [bind, Except.bind]

/-- The parser accepts the tokens of a text if and only if their words derive the expression. -/
theorem run_eq_ok {tokens : Tokens} {eof : Token} {e : Expr} (heof : tokens.ending = .ok eof) :
    run tokens = .ok e ↔ Sending .closed (tokens.items.map Token.word) e := by
  rw [run_eq_ok_iff heof]
  constructor
  · rintro ⟨last, hlast, hresult⟩
    exact (start_reads.foldlM hlast).sending hresult
  · intro h
    obtain ⟨last, hreaches, hresult⟩ := exists_reaches_of_sending h
    exact ⟨last, hreaches rfl, hresult⟩

/-- The parser accepts nothing that the scanner does not get to the end of. -/
lemma run_ne_ok {tokens : Tokens} {error : ScanError} {e : Expr}
    (herror : tokens.ending = .error error) : run tokens ≠ .ok e := by
  unfold run
  rw [herror]
  cases tokens.items.foldlM State.step start <;> exact fun h => nomatch h

end Parser

open Grammar

/-- **A text parses to the expression that its words derive.** -/
theorem parse_eq_ok {source : String} {e : Expr} :
    parse source = .ok e ↔ ∃ ws, Scans source.toList ws ∧ Sending .closed ws e := by
  cases hending : (Tokens.ofText source).ending with
  | error error =>
      refine ⟨fun h => absurd h (Parser.run_ne_ok hending), ?_⟩
      rintro ⟨ws, hscans, -⟩
      have hwords := Tokens.words?_ofText.2 ⟨ws, rfl, hscans⟩
      simp [Tokens.words?, hending] at hwords
  | ok eof =>
      have hwords : (Tokens.ofText source).words?
          = some ((Tokens.ofText source).items.map Token.word ++ [eof.word]) := by
        simp [Tokens.words?, hending]
      have hscans := Tokens.words?_ofText.1 hwords
      rw [parse, Parser.run_eq_ok hending]
      constructor
      · intro h
        obtain ⟨ws, hws, hscans⟩ := hscans
        rw [(List.append_inj' hws rfl).1] at h
        exact ⟨ws, hscans, h⟩
      · rintro ⟨ws, hscans, h⟩
        have hws := Tokens.words?_ofText.2 ⟨ws, rfl, hscans⟩
        rw [hwords] at hws
        rwa [(List.append_inj' (Option.some.inj hws) rfl).1]

/-- **Parsing is the grammar.**  A text parses to an expression exactly if the scanner gets to the
end of it and its words are a program with that expression.  Words are a program with one
expression at most, and the ambiguous version of the grammar has the same programs. -/
theorem parse_derives :
    (∀ source e, parse source = .ok e ↔
      ∃ ws, (Tokens.ofText source).words? = some ws ∧ Program .closed ws e) ∧
    (∀ ws, {e | Program .closed ws e}.Subsingleton) ∧
    (∀ ws, (∃ e, Program .closed ws e) ↔ ∃ e, Program .any ws e) := by
  refine ⟨?_, ?_, ?_⟩
  · intro source e
    rw [parse_eq_ok]
    constructor
    · rintro ⟨ws, hscans, he⟩
      exact ⟨_, Tokens.words?_ofText.2 ⟨ws, rfl, hscans⟩, .intro he rfl⟩
    · rintro ⟨us, hwords, he⟩
      obtain ⟨ws, rfl, hscans⟩ := Tokens.words?_ofText.1 hwords
      exact ⟨ws, hscans, (program_concat.1 he).1⟩
  · rintro ws e h e' h'
    cases h with
    | intro he _ => exact Parser.sending_unique he (program_concat.1 h').1
  · intro ws
    constructor
    · rintro ⟨e, he⟩
      exact exists_program .any he
    · rintro ⟨e, he⟩
      exact exists_program .closed he

end Missive
