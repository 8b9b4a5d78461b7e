import Missive.Proofs.Grammar.Basic
import Mathlib.Tactic.Lemma

/-!
# The parser stays within the grammar

Between two tokens the parser has read a part of a program.  `State.Reads` says which part: the
words behind it are those of the open brackets, then those of the operators that wait, then those
of the mode.  A token that fits keeps this up, and at the end of the text it is a derivation.

* `State.Reads.next?`: what one token preserves.
* `State.Reads.foldlM` and `State.Reads.sending`: what a whole text comes to.
-/

namespace Missive.Parser

open Grammar

/-! ## Operators that wait -/

/-- The phrase that a bracket takes in its place under way: the value of a map entry takes no
verb. -/
def Phrase : List (Enclosure × List Operator) → List Word → Expr → Prop
  | (.entry _ _, _) :: _ => Operand .closed
  | _ => Sending .closed

lemma phrase_of_operand {enclosures : List (Enclosure × List Operator)} {ws : List Word} {e : Expr}
    (h : Operand .closed ws e) : Phrase enclosures ws e := by
  unfold Phrase
  split
  · exact h
  · exact .value h

/-- The words of operators that wait: any value behind them makes a phrase of the innermost
bracket. -/
def Waits (enclosures : List (Enclosure × List Operator)) (operators : List Operator)
    (ws : List Word) : Prop :=
  ∀ ⦃us : List Word⦄ ⦃e : Expr⦄, Operand .closed us e →
    Phrase enclosures (ws ++ us) (settle operators e)

namespace Waits

variable {enclosures : List (Enclosure × List Operator)} {operators : List Operator}
  {ws us : List Word} {e : Expr} {w v : Word}

lemma none : Waits enclosures [] [] :=
  fun _ _ h => phrase_of_operand h

lemma closed (h : Waits enclosures operators ws) (he : Closed .closed us e) :
    Phrase enclosures (ws ++ us) (settle operators e) :=
  h (.closed he)

lemma later (h : Waits enclosures operators ws) (hw : w.kind = .at) :
    Waits enclosures (.later :: operators) (ws ++ [w]) := by
  intro us e he
  rw [List.append_assoc]
  exact h (.later hw he)

lemma message (h : Waits enclosures operators ws) (hw : w.kind = .backslash) (hv : IsVerb v) :
    Waits enclosures (.message v.text :: operators) (ws ++ [w] ++ [v]) := by
  intro us e he
  rw [List.append_assoc, List.append_assoc]
  exact h (.message hw hv he)

lemma pair (h : Waits enclosures operators ws) (he : Closed .closed us e) (hw : w.kind = .colon) :
    Waits enclosures (.pair e :: operators) (ws ++ us ++ [w]) := by
  intro rest right hright
  have hpair := h (.pair he hw hright)
  rwa [← List.append_assoc, List.append_cons] at hpair

lemma send (henclosures : Phrase enclosures = Sending .closed)
    (h : Sending .closed ws e) (hv : IsVerb v) :
    Waits enclosures [.send e v.text] (ws ++ [v]) := by
  intro us object hobject
  rw [henclosures, List.append_assoc]
  exact .send h hv hobject

end Waits

/-! ## Open brackets -/

/-- The words of the items of a row so far, each with the comma behind it. -/
inductive Items : List Expr → List Word → Prop
  | nil : Items [] []
  | snoc {earlier : List Expr} {ws us : List Word} {e : Expr} {c : Word} :
      Items earlier ws → Sending .closed us e → c.kind = .comma →
      Items (e :: earlier) (ws ++ us ++ [c])

/-- A last item completes a row. -/
lemma Items.row {earlier : List Expr} {ws us : List Word} {es : List Expr}
    (h : Items earlier ws) (hes : Row .closed us es) :
    Row .closed (ws ++ us) (earlier.reverse ++ es) := by
  induction h generalizing us es with
  | nil => exact hes
  | snoc _ he hc ih =>
      have hrow := ih (.cons he hc hes)
      simpa using hrow

/-- The words of the entries of a map so far, each with the comma behind it. -/
inductive Pairs : List (String × Expr) → List Word → Prop
  | nil : Pairs [] []
  | snoc {earlier : List (String × Expr)} {ws us : List Word} {e : Expr} {k c s : Word} :
      Pairs earlier ws → k.kind = .string → c.kind = .colon → Operand .closed us e →
      s.kind = .comma →
      Pairs ((Text.unquote k.text, e) :: earlier) (ws ++ [k] ++ [c] ++ us ++ [s])

/-- A last entry completes a map. -/
lemma Pairs.entries {earlier : List (String × Expr)} {ws us : List Word}
    {es : List (String × Expr)} (h : Pairs earlier ws) (hes : Entries .closed us es) :
    Entries .closed (ws ++ us) (earlier.reverse ++ es) := by
  induction h generalizing us es with
  | nil => exact hes
  | snoc _ hk hc he hs ih =>
      have hentries := ih (.cons hk hc he hs hes)
      simpa using hentries

/-- The words of a bracket from its opening up to its place under way. -/
inductive Enclosure.Reads : Enclosure → List Word → Prop
  | paren {l : Word} : l.kind = .openParen → Reads .paren [l]
  | items {bracket : Bracket} {earlier : List Expr} {l : Word} {ws : List Word} :
      l.kind = bracket.opening → Items earlier ws → Reads (.items bracket earlier) (l :: ws)
  | entry {earlier : List (String × Expr)} {l k c : Word} {ws : List Word} :
      l.kind = .openMap → Pairs earlier ws → k.kind = .string → c.kind = .colon →
      Reads (.entry earlier (Text.unquote k.text)) (l :: (ws ++ [k] ++ [c]))

/-- The words of all open brackets and of the operators that wait around them. -/
inductive Opened : List (Enclosure × List Operator) → List Word → Prop
  | nil : Opened [] []
  | cons {enclosure : Enclosure} {outer : List Operator}
      {enclosures : List (Enclosure × List Operator)} {os ws bs : List Word} :
      Opened enclosures os → Waits enclosures outer ws → enclosure.Reads bs →
      Opened ((enclosure, outer) :: enclosures) (os ++ ws ++ bs)

/-! ## States -/

/-- The words that a mode stands behind. -/
inductive Mode.Reads : Mode → List Word → Prop
  | value : Reads .value []
  | parenOpened {l : Word} : l.kind = .openParen → Reads .parenOpened [l]
  | bracketOpened (bracket : Bracket) {l : Word} :
      l.kind = bracket.opening → Reads (.bracketOpened bracket) [l]
  | mapOpened {l : Word} : l.kind = .openMap → Reads .mapOpened [l]
  | mapKey {earlier : List (String × Expr)} {l : Word} {ws : List Word} :
      l.kind = .openMap → Pairs earlier ws → Reads (.mapKey earlier) (l :: ws)
  | mapColon {earlier : List (String × Expr)} {l k : Word} {ws : List Word} :
      l.kind = .openMap → Pairs earlier ws → k.kind = .string →
      Reads (.mapColon earlier (Text.unquote k.text)) (l :: (ws ++ [k]))
  | verb {b : Word} : b.kind = .backslash → Reads .verb [b]
  | closed {e : Expr} {ws : List Word} : Closed .closed ws e → Reads (.closed e) ws
  | oversized {literal : Token} {ws : List Word} : Reads (.oversized literal) ws

/-- The words that a state stands behind. -/
inductive State.Reads : State → List Word → Prop
  | intro {operators : List Operator} {enclosures : List (Enclosure × List Operator)}
      {mode : Mode} {os ws ms : List Word} :
      Opened enclosures os → Waits enclosures operators ws → mode.Reads ms →
      Reads ⟨operators, enclosures, mode⟩ (os ++ ws ++ ms)

/-! ## What a token preserves -/

section

variable {operators : List Operator} {enclosures : List (Enclosure × List Operator)} {mode : Mode}
  {os ws : List Word} {token : Token} {next : State}

/-- A whole number that is not too large is a closed expression. -/
lemma numberMode_reads (hkind : token.kind = .number) :
    (numberMode token).Reads [token.word] := by
  unfold numberMode
  by_cases hfits : natOfDigits token.text.toList ≤ greatestInt
  · have hliteral : literal? token.word
        = some (.int (Int64.ofNat (natOfDigits token.text.toList))) := by
      simp [literal?, hkind, hfits]
    simpa [hfits] using Mode.Reads.closed (.literal hliteral)
  · simpa [hfits] using Mode.Reads.oversized

/-- The first token of a value is read. -/
lemma beginValue?_reads (hopened : Opened enclosures os) (hwaits : Waits enclosures operators ws)
    (h : State.beginValue? ⟨operators, enclosures, mode⟩ token = some next) :
    next.Reads (os ++ ws ++ [token.word]) := by
  have hstay : ∀ {mode' : Mode}, mode'.Reads [token.word] →
      State.Reads ⟨operators, enclosures, mode'⟩ (os ++ ws ++ [token.word]) :=
    fun hmode => .intro hopened hwaits hmode
  have hliteral : ∀ {e : Expr}, literal? token.word = some e →
      (Mode.closed e).Reads [token.word] :=
    fun he => .closed (.literal he)
  unfold State.beginValue? at h
  split at h <;> rename_i hkind <;> simp only [Option.some.injEq, reduceCtorEq] at h <;> subst h
  · have hlater := State.Reads.intro hopened (hwaits.later (w := token.word) hkind) .value
    rwa [List.append_nil, ← List.append_assoc] at hlater
  · exact hstay (.parenOpened hkind)
  · exact hstay (.bracketOpened .block hkind)
  · exact hstay (.bracketOpened .array hkind)
  · exact hstay (.mapOpened hkind)
  · exact hstay (numberMode_reads hkind)
  · exact hstay (hliteral (by simp [literal?, hkind]))
  · exact hstay (hliteral (by simp [literal?, hkind]))
  · exact hstay (hliteral (by simp [literal?, hkind]))
  · exact hstay (.verb hkind)

/-- A verb behind a whole expression is read. -/
lemma send?_reads {e : Expr} (hopened : Opened enclosures os)
    (hphrase : Phrase enclosures = Sending .closed) (he : Phrase enclosures ws e)
    (h : State.send? ⟨operators, enclosures, mode⟩ e token = some next) :
    next.Reads (os ++ ws ++ [token.word]) := by
  unfold State.send? at h
  split at h <;> rename_i hverb <;> simp only [Option.some.injEq, reduceCtorEq] at h
  subst h
  rw [hphrase] at he
  have hsend := State.Reads.intro hopened (Waits.send (v := token.word) hphrase he hverb) .value
  rwa [List.append_nil, ← List.append_assoc] at hsend

/-- A closing bracket, a comma or a verb behind a whole expression is read. -/
lemma follow?_reads {e : Expr} (hopened : Opened enclosures os) (he : Phrase enclosures ws e)
    (h : State.follow? ⟨operators, enclosures, mode⟩ e token = some next) :
    next.Reads (os ++ ws ++ [token.word]) := by
  unfold State.follow? at h
  cases hopened with
  | nil => exact send?_reads .nil rfl he h
  | cons houter hwaits henclosure =>
    cases henclosure with
    | paren hl =>
      simp only at h
      split at h
      · rename_i hclose
        simp only [Option.some.injEq] at h
        subst h
        have hparen := State.Reads.intro houter hwaits
          (.closed (.paren (r := token.word) hl he hclose))
        simpa using hparen
      · exact send?_reads (.cons houter hwaits (.paren hl)) rfl he h
    | items hl hitems =>
      simp only at h
      split at h
      · rename_i hclose
        simp only [Option.some.injEq] at h
        subst h
        have hrow := State.Reads.intro houter hwaits
          (.closed (.row _ (r := token.word) hl (hitems.row (.one he)) hclose))
        simpa using hrow
      · split at h
        · rename_i hcomma
          simp only [Option.some.injEq] at h
          subst h
          have hrow := State.Reads.intro
            (.cons houter hwaits (.items hl (hitems.snoc (c := token.word) he hcomma)))
            .none .value
          simpa using hrow
        · exact send?_reads (.cons houter hwaits (.items hl hitems)) rfl he h
    | entry hl hpairs hk hc =>
      simp only at h
      split at h
      · rename_i hclose
        simp only [Option.some.injEq] at h
        subst h
        have hmap := State.Reads.intro houter hwaits
          (.closed (.map (r := token.word) hl (hpairs.entries (.one hk hc he)) hclose))
        simpa using hmap
      · split at h <;> rename_i hcomma <;> simp only [Option.some.injEq, reduceCtorEq] at h
        subst h
        have hmap := State.Reads.intro houter hwaits
          (.mapKey hl (hpairs.snoc (s := token.word) hk hc he hcomma))
        simpa using hmap

/-- A key is read. -/
lemma key?_reads {earlier : List (String × Expr)} {l : Word} {us : List Word}
    (hopened : Opened enclosures os) (hwaits : Waits enclosures operators ws)
    (hl : l.kind = .openMap) (hpairs : Pairs earlier us)
    (h : State.key? ⟨operators, enclosures, mode⟩ earlier token = some next) :
    next.Reads (os ++ ws ++ (l :: us) ++ [token.word]) := by
  unfold State.key? at h
  split at h <;> rename_i hkey <;> simp only [Option.some.injEq, reduceCtorEq] at h
  subst h
  have hcolon := State.Reads.intro hopened hwaits (.mapColon (k := token.word) hl hpairs hkey)
  simpa [State.withMode] using hcolon

end

/-- **One token.**  A token that fits is read. -/
theorem State.Reads.next? {state next : State} {ws : List Word} {token : Token}
    (h : state.Reads ws) (hnext : state.next? token = some next) :
    next.Reads (ws ++ [token.word]) := by
  cases h with
  | intro hopened hwaits hmode =>
    unfold State.next? at hnext
    cases hmode with
    | value => simpa using beginValue?_reads hopened hwaits hnext
    | parenOpened hl =>
      simp only at hnext
      split at hnext
      · rename_i hclose
        simp only [Option.some.injEq] at hnext
        subst hnext
        have hnil := State.Reads.intro hopened hwaits
          (.closed (.nil (r := token.word) hl hclose))
        simpa [State.withMode] using hnil
      · have hbegin := beginValue?_reads (.cons hopened hwaits (.paren hl)) .none hnext
        simpa using hbegin
    | bracketOpened bracket hl =>
      simp only at hnext
      split at hnext
      · rename_i hclose
        simp only [Option.some.injEq] at hnext
        subst hnext
        have hempty := State.Reads.intro hopened hwaits
          (.closed (.empty bracket (r := token.word) hl hclose))
        simpa [State.withMode] using hempty
      · have hbegin := beginValue?_reads (.cons hopened hwaits (.items hl .nil)) .none hnext
        simpa using hbegin
    | mapOpened hl =>
      simp only at hnext
      split at hnext
      · rename_i hclose
        simp only [Option.some.injEq] at hnext
        subst hnext
        have hempty := State.Reads.intro hopened hwaits
          (.closed (.emptyMap (r := token.word) hl hclose))
        simpa [State.withMode] using hempty
      · exact key?_reads hopened hwaits hl .nil hnext
    | mapKey hl hpairs => exact key?_reads hopened hwaits hl hpairs hnext
    | mapColon hl hpairs hk =>
      simp only at hnext
      split at hnext <;> rename_i hcolon <;>
        simp only [Option.some.injEq, reduceCtorEq] at hnext
      subst hnext
      have hentry := State.Reads.intro
        (.cons hopened hwaits (.entry (c := token.word) hl hpairs hk hcolon)) .none .value
      simpa [State.enter] using hentry
    | verb hb =>
      simp only at hnext
      split at hnext <;> rename_i hverb <;>
        simp only [Option.some.injEq, reduceCtorEq] at hnext
      subst hnext
      have hmessage := State.Reads.intro hopened
        (hwaits.message (v := token.word) hb hverb) .value
      simpa [State.await] using hmessage
    | closed he =>
      simp only at hnext
      split at hnext
      · rename_i hcolon
        simp only [Option.some.injEq] at hnext
        subst hnext
        have hpair := State.Reads.intro hopened
          (hwaits.pair (w := token.word) he hcolon) .value
        simpa [State.await] using hpair
      · have hfollow := follow?_reads hopened (hwaits.closed he) hnext
        simpa using hfollow
    | oversized => simp at hnext

/-! ## What a text comes to -/

/-- Before the first token nothing has been read. -/
lemma start_reads : start.Reads [] :=
  .intro .nil .none .value

/-- **A whole text.**  What has been read is read on. -/
theorem State.Reads.foldlM {tokens : List Token} {state last : State} {ws : List Word}
    (h : state.Reads ws) (hrun : tokens.foldlM State.next? state = some last) :
    last.Reads (ws ++ tokens.map Token.word) := by
  induction tokens generalizing state ws with
  | nil =>
      cases hrun
      simpa using h
  | cons token tokens ih =>
      rw [List.foldlM_cons] at hrun
      obtain ⟨next, hnext, hlast⟩ := Option.bind_eq_some_iff.1 hrun
      have hreads := ih (h.next? hnext) hlast
      simpa using hreads

/-- A text that has been read to its end is derived in the grammar. -/
lemma State.Reads.sending {state : State} {ws : List Word} {e : Expr}
    (h : state.Reads ws) (hresult : state.result? = some e) : Sending .closed ws e := by
  cases h with
  | intro hopened hwaits hmode =>
    unfold State.result? at hresult
    split at hresult <;> simp only [Option.some.injEq, reduceCtorEq] at hresult
    rename_i hclosed hnone
    simp only at hclosed hnone hresult
    subst hclosed hnone hresult
    cases hopened
    cases hmode with
    | closed he => exact hwaits.closed he

end Missive.Parser
