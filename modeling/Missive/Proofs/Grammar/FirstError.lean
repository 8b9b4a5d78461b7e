import Missive.Proofs.Grammar.Prefix

/-!
# The error that is reported

A text that is no program is refused for the first thing that is wrong with it.  The answers of the
scanner are checked in turn: whether there is a token at all, whether some program begins with the
tokens so far, and whether a whole number is small enough.  The last of these is checked one token
late, so an error of the scanner behind a number comes before that of the number.

* `Cursor.ScansToEnd`: the answers of the scanner, up to the end of the text or the first error.
* `Check`, `Check.Fails`: what is checked, and the error of a check that fails.
* `Check.rounds`: the checks in their order.
* `FirstFailure`: the error of the first check that fails.
* `parse_firstFailure`: the parser reports the error of the first check that fails, if one does.
-/

namespace Missive

/-! ## The answers of the scanner -/

/-- No more is scanned behind the end of the text or an error. -/
def Stops : Except ScanError Token → Prop
  | .ok token => token.kind = .eof
  | .error _ => True

/-- The answers of scans that follow each other, up to the end of the text or the first error. -/
structure Cursor.ScansToEnd (cursor : Cursor) (answers : List (Except ScanError Token)) : Prop where
  /-- No scan is left out. -/
  all : cursor.scanMany answers.length = answers
  /-- The last answer, and no other, is the end of the text or an error. -/
  stops : ∃ front last, answers = front ++ [last] ∧ Stops last ∧ ∀ answer ∈ front, ¬ Stops answer

namespace Tokens

/-- Only the last token is the end of the text. -/
lemma kind_ofCursor (cursor : Cursor) :
    (∀ token ∈ (ofCursor cursor).items, token.kind ≠ .eof) ∧
      ∀ eof, (ofCursor cursor).ending = .ok eof → eof.kind = .eof := by
  induction cursor using ofCursor.induct with
  | case1 cursor error next hscan =>
      rw [ofCursor_error hscan]
      constructor
      · intro token htoken
        cases htoken
      · intro eof heof
        cases heof
  | case2 cursor token next hscan hkind =>
      rw [ofCursor_eof hscan hkind]
      constructor
      · intro token htoken
        cases htoken
      · intro eof heof
        cases heof
        exact hkind
  | case3 cursor token next hscan hkind ih =>
      rw [ofCursor_token hscan hkind]
      exact ⟨List.forall_mem_cons.mpr ⟨hkind, ih.1⟩, ih.2⟩

/-- The tokens of a text are the answers of scans that follow each other. -/
lemma scanMany_length_toList (cursor : Cursor) :
    cursor.scanMany (ofCursor cursor).toList.length = (ofCursor cursor).toList := by
  induction cursor using ofCursor.induct with
  | case1 cursor error next hscan =>
      rw [ofCursor_error hscan]
      simp [toList, Cursor.scanMany, hscan]
  | case2 cursor token next hscan hkind =>
      rw [ofCursor_eof hscan hkind]
      simp [toList, Cursor.scanMany, hscan]
  | case3 cursor token next hscan hkind ih =>
      have htoList : (ofCursor cursor).toList = .ok token :: (ofCursor next).toList := by
        rw [ofCursor_token hscan hkind]
        rfl
      rw [htoList, List.length_cons, Cursor.scanMany, hscan]
      exact congrArg (Except.ok token :: ·) ih

/-- The tokens of a text are all answers of the scanner that the parser may ask for. -/
lemma scansToEnd_toList (cursor : Cursor) : cursor.ScansToEnd (ofCursor cursor).toList where
  all := scanMany_length_toList cursor
  stops := by
    obtain ⟨hitems, hending⟩ := kind_ofCursor cursor
    refine ⟨_, _, rfl, ?_, List.forall_mem_map.mpr hitems⟩
    cases hend : (ofCursor cursor).ending with
    | error error => trivial
    | ok eof => exact hending eof hend

end Tokens

/-! ## Checks -/

/-- The kinds of the tokens among the answers of the scanner. -/
def kindsOf (answers : List (Except ScanError Token)) : List TokenKind :=
  answers.filterMap fun
    | .ok token => some token.kind
    | .error _ => none

lemma kindsOf_map_ok (tokens : List Token) :
    kindsOf (tokens.map .ok) = tokens.map Token.kind := by
  rw [kindsOf, List.filterMap_map]
  exact congrFun List.filterMap_eq_map tokens

/-- What is checked about an answer of the scanner, given by its number. -/
inductive Check
  /-- There is a token. -/
  | scan (i : Nat)
  /-- The token is no whole number that is too large. -/
  | literal (i : Nat)
  /-- Some program begins with the tokens up to this one. -/
  | fit (i : Nat)
  deriving DecidableEq, Repr

namespace Check

/-- The checks for one more answer.  The number before it is checked only then. -/
def round : Nat → List Check
  | 0 => [scan 0, fit 0]
  | i + 1 => [scan (i + 1), literal i, fit (i + 1)]

/-- The checks for a number of answers. -/
def rounds : Nat → List Check
  | 0 => []
  | n + 1 => rounds n ++ round n

/-- The number of the answer for which a check is made. -/
def due : Check → Nat
  | scan i | fit i => i
  | literal i => i + 1

/-- A check fails with an error. -/
inductive Fails (answers : List (Except ScanError Token)) : Check → ReadError → Prop
  | scan {i : Nat} {error : ScanError} :
      answers[i]? = some (.error error) → Fails answers (.scan i) (.scan error)
  | literal {i : Nat} {token : Token} :
      answers[i]? = some (.ok token) → token.kind = .number →
      Parser.greatestInt < natOfDigits token.text.toList →
      Fails answers (.literal i) (.invalidLiteral token)
  | fit {i : Nat} {token : Token} {expected : Expectation} :
      answers[i]? = some (.ok token) → ¬ Grammar.Viable (kindsOf (answers.take (i + 1))) →
      Grammar.Viable (kindsOf (answers.take i)) →
      Fails answers (.fit i) (.unexpectedToken token expected)

end Check

/-- The error is that of the first check that fails. -/
def FirstFailure (answers : List (Except ScanError Token)) (error : ReadError) : Prop :=
  ∃ before check after, Check.rounds answers.length = before ++ check :: after ∧
    check.Fails answers error ∧ ∀ earlier ∈ before, ∀ error, ¬ earlier.Fails answers error

namespace Check

lemma due_of_mem_round {check : Check} {i : Nat} (h : check ∈ round i) : check.due = i := by
  cases i with
  | zero =>
      obtain rfl | rfl : check = .scan 0 ∨ check = .fit 0 := by simpa [round] using h
      · rfl
      · rfl
  | succ i =>
      obtain rfl | rfl | rfl :
          check = .scan (i + 1) ∨ check = .literal i ∨ check = .fit (i + 1) := by
        simpa [round] using h
      · rfl
      · rfl
      · rfl

/-- The last check of a round is whether the token fits. -/
lemma round_eq_concat (i : Nat) :
    ∃ before, round i = before ++ [fit i] ∧
      ∀ check ∈ before, check = scan i ∨ ∃ j < i, check = literal j := by
  cases i with
  | zero => exact ⟨[scan 0], rfl, by simp⟩
  | succ i => exact ⟨[scan (i + 1), literal i], rfl, by simp⟩

lemma due_lt_of_mem_rounds {check : Check} {n : Nat} (h : check ∈ rounds n) : check.due < n := by
  induction n with
  | zero => cases h
  | succ n ih =>
      obtain h | h := List.mem_append.mp h
      · exact Nat.lt_succ_of_lt (ih h)
      · exact due_of_mem_round h ▸ Nat.lt_succ_self n

/-- More answers are checked after those before them. -/
lemma rounds_eq_append {k n : Nat} (h : k < n) :
    ∃ after, rounds n = rounds k ++ round k ++ after := by
  induction h with
  | refl => exact ⟨[], (List.append_nil _).symm⟩
  | @step n _ ih =>
      obtain ⟨after, hafter⟩ := ih
      exact ⟨after ++ round n, by rw [rounds, hafter, List.append_assoc]⟩

end Check

namespace Parser

open Grammar

section

variable {front : List Token} {rest : List (Except ScanError Token)} {state : State}

/-- A number is followed by something only if it is not too large. -/
lemma not_tooLarge_of_foldlM (hread : front.foldlM State.next? start = some state) {i : Nat}
    {token : Token} (htoken : front[i]? = some token)
    (hlast : i + 1 < front.length ∨ ¬ state.Oversized) : ¬ TooLarge token := by
  rw [← List.take_append_drop (i + 1) front, List.foldlM_append] at hread
  obtain ⟨behind, hbehind, hrest⟩ := Option.bind_eq_some_iff.mp hread
  have hnot : ¬ behind.Oversized := by
    cases hdrop : front.drop (i + 1) with
    | nil =>
        rw [hdrop] at hrest
        cases hrest
        exact hlast.resolve_left (Nat.not_lt_of_le (List.drop_eq_nil_iff.mp hdrop))
    | cons next more =>
        rw [hdrop, List.foldlM_cons] at hrest
        obtain ⟨_, hnext, -⟩ := Option.bind_eq_some_iff.mp hrest
        exact not_oversized_of_next? hnext
  rw [List.take_add_one, htoken, Option.toList_some, List.foldlM_append] at hbehind
  obtain ⟨before, -, hone⟩ := Option.bind_eq_some_iff.mp hbehind
  obtain ⟨_, hnext, ⟨⟩⟩ := Option.bind_eq_some_iff.mp hone
  intro hlarge
  exact hnot ⟨token, (oversized_iff hnext).mpr ⟨rfl, hlarge⟩⟩

/-- The answers for tokens that have been read. -/
lemma getElem?_of_lt {i : Nat} (hi : i < front.length) {answer : Except ScanError Token}
    (hanswer : (front.map Except.ok ++ rest)[i]? = some answer) :
    ∃ token, front[i]? = some token ∧ answer = .ok token := by
  rw [List.getElem?_append_left (by simpa using hi), List.getElem?_map] at hanswer
  obtain ⟨token, htoken, rfl⟩ := Option.map_eq_some_iff.mp hanswer
  exact ⟨token, htoken, rfl⟩

/-- The answer behind tokens that have been read. -/
lemma getElem?_length {answer : Except ScanError Token} :
    (front.map Except.ok ++ answer :: rest)[front.length]? = some answer := by
  simp

/-- The kinds of tokens that have been read. -/
lemma kindsOf_take {i : Nat} (hi : i ≤ front.length) :
    kindsOf ((front.map Except.ok ++ rest).take i) = (front.take i).map Token.kind := by
  rw [List.take_append_of_le_length (by simpa using hi), ← List.map_take, kindsOf_map_ok]

/-- The kinds up to the token behind tokens that have been read. -/
lemma kindsOf_take_succ {token : Token} :
    kindsOf ((front.map Except.ok ++ Except.ok token :: rest).take (front.length + 1))
      = front.map Token.kind ++ [token.kind] := by
  have hanswers : front.map .ok ++ .ok token :: rest
      = (front ++ [token]).map Except.ok ++ rest := by
    simp
  have hlength : front.length + 1 = (front ++ [token]).length := by simp
  rw [hanswers, hlength, kindsOf_take (Nat.le_refl _), List.take_length, List.map_append]
  rfl

/-- The scanner finds the token behind tokens that have been read. -/
lemma not_fails_scan {token : Token} {error : ReadError} :
    ¬ Check.Fails (front.map .ok ++ .ok token :: rest) (.scan front.length) error := by
  rintro ⟨herror⟩
  rw [getElem?_length] at herror
  cases herror

/-- No number that has been read is too large, unless it is the last token. -/
lemma not_fails_literal (hread : front.foldlM State.next? start = some state)
    (hstate : ¬ state.Oversized) {i : Nat} (hi : i < front.length) {error : ReadError} :
    ¬ Check.Fails (front.map .ok ++ rest) (.literal i) error := by
  intro hfails
  cases hfails with
  | literal htoken hkind hlarge =>
      obtain ⟨_, htoken, ⟨⟩⟩ := getElem?_of_lt hi htoken
      exact not_tooLarge_of_foldlM hread htoken (.inr hstate) ⟨hkind, hlarge⟩

/-- No check fails for what has been read, apart from that of the last literal. -/
lemma not_fails_of_due_lt (hread : front.foldlM State.next? start = some state) {check : Check}
    (hdue : check.due < front.length) {error : ReadError} :
    ¬ check.Fails (front.map .ok ++ rest) error := by
  intro hfails
  cases hfails with
  | scan hscan =>
      obtain ⟨_, -, ⟨⟩⟩ := getElem?_of_lt hdue hscan
  | literal htoken hkind hlarge =>
      obtain ⟨_, htoken, ⟨⟩⟩ := getElem?_of_lt (Nat.lt_of_succ_lt hdue) htoken
      exact not_tooLarge_of_foldlM hread htoken (.inl hdue) ⟨hkind, hlarge⟩
  | @fit i _ _ _ hviable =>
      have hi : i + 1 ≤ front.length := hdue
      rw [kindsOf_take hi] at hviable
      rw [← List.take_append_drop (i + 1) front, List.foldlM_append] at hread
      obtain ⟨_, hbehind, -⟩ := Option.bind_eq_some_iff.mp hread
      exact hviable (viable_of_foldlM hbehind)

/-- The first failure is in the round of the first answer that is not read, and only the checks of
this round before it are left to look at. -/
lemma firstFailure_of_round (hread : front.foldlM State.next? start = some state)
    (hrest : rest ≠ []) {before after : List Check} {check : Check} {error : ReadError}
    (hround : Check.round front.length = before ++ check :: after)
    (hfails : check.Fails (front.map .ok ++ rest) error)
    (hbefore : ∀ earlier ∈ before, ∀ error, ¬ earlier.Fails (front.map .ok ++ rest) error) :
    FirstFailure (front.map .ok ++ rest) error := by
  have hlength : front.length < (front.map Except.ok ++ rest).length := by
    have hpos := List.length_pos_iff.mpr hrest
    simpa using hpos
  obtain ⟨others, hrounds⟩ := Check.rounds_eq_append hlength
  refine ⟨Check.rounds front.length ++ before, check, after ++ others, ?_, hfails, ?_⟩
  · rw [hrounds, hround]
    simp
  · intro earlier hearlier error
    obtain hearlier | hearlier := List.mem_append.mp hearlier
    · exact not_fails_of_due_lt hread (Check.due_lt_of_mem_rounds hearlier)
    · exact hbefore earlier hearlier error

/-- An error of the scanner is the first thing that is wrong behind tokens that have been read. -/
lemma firstFailure_of_scan {error : ScanError}
    (hread : front.foldlM State.next? start = some state) :
    FirstFailure (front.map .ok ++ [.error error]) (.scan error) := by
  obtain ⟨after, hround⟩ : ∃ after,
      Check.round front.length = [] ++ .scan front.length :: after := by
    cases front.length <;> exact ⟨_, rfl⟩
  exact firstFailure_of_round hread (List.cons_ne_nil _ _) hround
    (.scan getElem?_length) nofun

/-- A number that is too large is the first thing that is wrong if a token comes behind it. -/
lemma firstFailure_of_oversized {token literal : Token}
    (hread : front.foldlM State.next? start = some state)
    (hmode : state.mode = .oversized literal) :
    FirstFailure (front.map .ok ++ .ok token :: rest) (.invalidLiteral literal) := by
  obtain ⟨front, before, rfl, -, -, hkind, hlarge⟩ := exists_concat_of_oversized hread hmode
  have hround : Check.round (front ++ [literal]).length
      = [.scan (front ++ [literal]).length] ++ .literal front.length
        :: [.fit (front ++ [literal]).length] := by
    rw [List.length_append]
    rfl
  refine firstFailure_of_round hread (List.cons_ne_nil _ _) hround
    (.literal ?_ hkind hlarge) fun earlier hearlier error => ?_
  · simp
  · obtain rfl := List.mem_singleton.mp hearlier
    exact not_fails_scan

/-- A token that does not fit is the first thing that is wrong if the number before it is not too
large. -/
lemma firstFailure_of_not_oversized {token : Token} {expected : Expectation}
    (hread : front.foldlM State.next? start = some state) (hstate : ¬ state.Oversized)
    (hrefuses : state.Refuses token) :
    FirstFailure (front.map .ok ++ .ok token :: rest) (.unexpectedToken token expected) := by
  obtain ⟨before, hround, hbefore⟩ := Check.round_eq_concat front.length
  refine firstFailure_of_round hread (List.cons_ne_nil _ _) hround
    (.fit getElem?_length ?_ ?_) fun earlier hearlier error => ?_
  · rw [kindsOf_take_succ]
    exact not_viable_of_refuses hread hstate hrefuses
  · rw [kindsOf_take (Nat.le_refl _), List.take_length]
    exact viable_of_foldlM hread
  · obtain rfl | ⟨i, hi, rfl⟩ := hbefore earlier hearlier
    · exact not_fails_scan
    · exact not_fails_literal hread hstate hi

/-- The parser stops at a token for the first thing that is wrong. -/
lemma firstFailure_of_refuses {token : Token}
    (hread : front.foldlM State.next? start = some state) (hrefuses : state.Refuses token) :
    FirstFailure (front.map .ok ++ .ok token :: rest) (state.refuse token) := by
  unfold State.refuse
  split
  · rename_i literal hmode
    exact firstFailure_of_oversized hread hmode
  · rename_i hmode
    exact firstFailure_of_not_oversized hread (fun ⟨literal, h⟩ => hmode literal h) hrefuses

/-- Nothing is wrong with a program. -/
lemma not_fails_of_result? {eof : Token} (heof : eof.kind = .eof) {e : Expr}
    (hread : front.foldlM State.next? start = some state) (hresult : state.result? = some e)
    {check : Check} (hdue : check.due ≤ front.length) {error : ReadError} :
    ¬ check.Fails (front.map .ok ++ [.ok eof]) error := by
  have hstate : ¬ state.Oversized := by
    rintro ⟨literal, hmode⟩
    rw [State.result?, hmode] at hresult
    cases hresult
  obtain hlt | heq := Nat.lt_or_eq_of_le hdue
  · exact not_fails_of_due_lt hread hlt
  cases check with
  | scan i =>
      obtain rfl : i = front.length := heq
      exact not_fails_scan
  | literal i =>
      exact not_fails_literal hread hstate (Nat.lt_of_succ_le (Nat.le_of_eq heq))
  | fit i =>
      obtain rfl : i = front.length := heq
      rintro (_ | _ | ⟨-, hviable, -⟩)
      have hsending := (start_reads.foldlM hread).sending hresult
      have hword : eof.word.kind = .eof := heof
      refine hviable ⟨_, e, .intro hsending hword, ?_⟩
      rw [kindsOf_take_succ]
      simp [Function.comp_def]

end

/-- Where the parser stops. -/
lemma exists_of_foldlM_step_eq_error {tokens : List Token} {state : State} {error : ReadError}
    (h : tokens.foldlM State.step state = .error error) :
    ∃ front token back behind, tokens = front ++ token :: back ∧
      front.foldlM State.next? state = some behind ∧ behind.next? token = none ∧
      error = behind.refuse token := by
  induction tokens generalizing state with
  | nil => cases h
  | cons token tokens ih =>
      rw [List.foldlM_cons] at h
      cases hnext : state.next? token with
      | none =>
          have hstep : state.step token = .error (state.refuse token) := by
            rw [State.step, hnext]
          rw [hstep] at h
          exact ⟨[], token, tokens, state, rfl, rfl, hnext, (Except.error.inj h).symm⟩
      | some next =>
          have hstep : state.step token = .ok next := by rw [State.step, hnext]
          rw [hstep] at h
          obtain ⟨front, last, back, behind, rfl, hread, hrefuse, rfl⟩ := ih h
          refine ⟨token :: front, last, back, behind, rfl, ?_, hrefuse, rfl⟩
          rw [List.foldlM_cons, hnext]
          exact hread

/-- The end of a text fits nowhere. -/
lemma next?_eof {state : State} {eof : Token} (heof : eof.kind = .eof) :
    state.next? eof = none := by
  have hbegin : ∀ state : State, state.beginValue? eof = none := by
    intro state
    simp [State.beginValue?, heof]
  have hsend : ∀ e : Expr, state.send? e eof = none := by
    intro e
    simp [State.send?, heof]
  have hclose : ∀ bracket : Bracket, TokenKind.eof ≠ bracket.close := by
    rintro ⟨⟩ <;> exact nofun
  unfold State.next?
  rw [heof]
  cases state.mode with
  | closed e =>
      simp only [reduceCtorEq, if_false]
      unfold State.follow?
      rw [heof]
      split <;> simp [hsend, hclose]
  | _ => simp [hbegin, hclose, State.key?, heof]

/-- **The error of the parser.**  It is that of the first check that fails, and there is none only
if no check fails. -/
lemma run_firstFailure (tokens : Tokens) (hitems : ∀ token ∈ tokens.items, token.kind ≠ .eof)
    (hending : ∀ eof, tokens.ending = .ok eof → eof.kind = .eof) :
    match run tokens with
    | .ok _ => ∀ check ∈ Check.rounds tokens.toList.length, ∀ error,
        ¬ check.Fails tokens.toList error
    | .error error => FirstFailure tokens.toList error := by
  cases hitemsRun : tokens.items.foldlM State.step start with
  | error error =>
      have hrun : run tokens = .error error := by
        rw [run, hitemsRun]
        rfl
      rw [hrun]
      obtain ⟨front, token, back, behind, htokens, hread, hnext, rfl⟩ :=
        exists_of_foldlM_step_eq_error hitemsRun
      have hkind : token.kind ≠ .eof := hitems token (by rw [htokens]; simp)
      have hfirst : FirstFailure
          (front.map .ok ++ .ok token :: (back.map .ok ++ [tokens.ending])) (behind.refuse token) :=
        firstFailure_of_refuses hread ⟨hnext, fun heof => absurd heof hkind⟩
      rw [Tokens.toList, htokens]
      simpa using hfirst
  | ok last =>
      have hread := foldlM_step_eq_ok.mp hitemsRun
      cases hend : tokens.ending with
      | error error =>
          have hrun : run tokens = .error (.scan error) := by
            rw [run, hitemsRun, hend]
            rfl
          rw [hrun, Tokens.toList, hend]
          exact firstFailure_of_scan hread
      | ok eof =>
          have heof := hending eof hend
          have hrun : run tokens = last.finish eof := by
            rw [run, hitemsRun, hend]
            rfl
          rw [hrun, State.finish, Tokens.toList, hend]
          cases hresult : last.result? with
          | none => exact firstFailure_of_refuses hread ⟨next?_eof heof, fun _ => hresult⟩
          | some e =>
              intro check hcheck error
              have hdue := Check.due_lt_of_mem_rounds hcheck
              refine not_fails_of_result? heof hread hresult (Nat.le_of_lt_succ ?_)
              simpa using hdue

end Parser

/-- **The error that is reported.**  The answers of the scanner up to the end of a text or to its
first error are checked in turn; the text is refused if and only if one of the checks fails, and the
error is that of the first which does.  A number with a point is never too large. -/
theorem parse_firstFailure (source : String) :
    (Cursor.ofText source).ScansToEnd (Tokens.ofText source).toList ∧
      ((∃ error, parse source = .error error) ↔
        ∃ check ∈ Check.rounds (Tokens.ofText source).toList.length, ∃ error,
          check.Fails (Tokens.ofText source).toList error) ∧
      (∀ error, parse source = .error error →
        FirstFailure (Tokens.ofText source).toList error) ∧
      ∀ token, parse source = .error (.invalidLiteral token) → token.kind = .number := by
  obtain ⟨hitems, hending⟩ := Tokens.kind_ofCursor (Cursor.ofText source)
  have hrun := Parser.run_firstFailure (Tokens.ofText source) hitems hending
  have hfirst : ∀ error, parse source = .error error →
      FirstFailure (Tokens.ofText source).toList error := by
    intro error herror
    rw [parse] at herror
    rwa [herror] at hrun
  refine ⟨Tokens.scansToEnd_toList _, ⟨?_, ?_⟩, hfirst, ?_⟩
  · rintro ⟨error, herror⟩
    obtain ⟨before, check, after, hrounds, hfails, -⟩ := hfirst error herror
    exact ⟨check, by rw [hrounds]; simp, error, hfails⟩
  · rintro ⟨check, hcheck, error, hfails⟩
    rw [parse]
    cases hparse : Parser.run (Tokens.ofText source) with
    | error error => exact ⟨error, rfl⟩
    | ok e =>
        rw [hparse] at hrun
        exact absurd hfails (hrun check hcheck error)
  · intro token htoken
    obtain ⟨_, _, _, -, hfails, -⟩ := hfirst _ htoken
    cases hfails with
    | literal _ hkind _ => exact hkind

/-- A character that begins no token comes before the number in front of it, which is too large. -/
example : parse "9223372036854775808 ;" = .error (.scan (.unexpectedCharacter ⟨1, 21⟩ ';')) := by
  cbv

end Missive
