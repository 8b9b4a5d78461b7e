import Missive.Proofs.Token.Words

/-!
# Blanks between tokens

Tokens that have been scanned may be written down again with other blanks before, between and behind
them, as long as some are left where there were some.  The scanner finds the same words.

* `layOut`, `Gaps`: tokens with other blanks between them.
* `Tokens.scans_layOut`: the words stay the same.
-/

namespace Missive

open Text

/-! ## Places -/

namespace Pos

/-- Behind a text is a later line, or a place as many columns further on as the text is long. -/
lemma afterAll_cases (pos : Pos) (text : List Char) :
    pos.line < (pos.afterAll text).line ∨
      pos.afterAll text = ⟨pos.line, pos.column + text.length⟩ := by
  induction text generalizing pos with
  | nil => exact .inr rfl
  | cons c text ih =>
      have hcons : pos.afterAll (c :: text) = (pos.after c).afterAll text := rfl
      rw [hcons]
      by_cases hc : c = '\n'
      · have hafter : pos.after c = ⟨pos.line + 1, 1⟩ := if_pos hc
        rw [hafter]
        rcases ih ⟨pos.line + 1, 1⟩ with hline | hsame
        · exact .inl (Nat.lt_of_succ_lt hline)
        · rw [hsame]
          exact .inl (Nat.lt_succ_self _)
      · have hafter : pos.after c = ⟨pos.line, pos.column + 1⟩ := if_neg hc
        rw [hafter]
        rcases ih ⟨pos.line, pos.column + 1⟩ with hline | hsame
        · exact .inl hline
        · rw [hsame, List.length_cons]
          exact .inr (congrArg (Pos.mk pos.line) (by simp only; omega))

/-- No text ends where it begins, unless there is nothing to it. -/
lemma eq_nil_of_afterAll {pos : Pos} {text : List Char} (h : pos.afterAll text = pos) :
    text = [] := by
  rcases afterAll_cases pos text with hline | hsame
  · rw [h] at hline
    exact absurd hline (Nat.lt_irrefl _)
  · have hcolumn : pos.column = pos.column + text.length :=
      congrArg Pos.column (h.symm.trans hsame)
    exact List.length_eq_zero_iff.mp (by omega)

end Pos

/-! ## Other blanks -/

/-- Tokens with blanks behind each of them. -/
def layOut (tokens : List Token) (gaps : List (List Char)) : List Char :=
  (tokens.zip gaps).flatMap fun piece => piece.1.text.toList ++ piece.2

/-- Blanks for behind each of the tokens.  There are none only behind the last token, and between
two tokens of which the second starts where the first one stops. -/
structure Gaps (tokens : List Token) (gaps : List (List Char)) : Prop where
  length : gaps.length = tokens.length
  blank : ∀ gap ∈ gaps, ∀ c ∈ gap, isBlank c = true
  apart : ∀ i token next, tokens[i]? = some token → tokens[i + 1]? = some next →
    gaps[i]? = some [] → token.stop = next.start

/-- No character of a verb stands at the head of blanks. -/
lemma delimited_of_isBlank {c : Char} (h : isBlank c = true) (rest : List Char) :
    Delimited (c :: rest) := by
  refine .cons ?_ rest
  rw [← Bool.not_eq_true]
  intro hpart
  rw [isBlank_of_isVerbPart hpart] at h
  cases h

namespace Tokens

variable {cursor next : Cursor} {token : Token}

/-- A token starts behind the blanks and stops where the next scan begins. -/
lemma places_of_scan (h : cursor.scan = (.ok token, next)) :
    token.start = cursor.skipBlanks.pos ∧ token.stop = next.pos := by
  simp only [Cursor.scan] at h
  split at h <;> cases h
  exact ⟨rfl, rfl⟩

/-- The first token of a text starts behind the blanks. -/
lemma start_of_head? (h : token ∈ (ofCursor cursor).items.head?) :
    token.start = cursor.skipBlanks.pos := by
  rcases hscan : cursor.scan with ⟨answer, next⟩
  cases answer with
  | error error =>
      rw [ofCursor_error hscan] at h
      cases h
  | ok first =>
      by_cases hkind : first.kind = .eof
      · rw [ofCursor_eof hscan hkind] at h
        cases h
      · rw [ofCursor_token hscan hkind] at h
        cases h
        exact (places_of_scan hscan).1

/-- **Other blanks.**  The words of tokens that are laid out with other blanks are the words of the
tokens; and a lexeme before them finds no more to go on with than it found before. -/
lemma scans_layOut {tokens : List Token} {eof : Token} {gaps : List (List Char)}
    (h : ofCursor cursor = ⟨tokens, .ok eof⟩) (hgaps : Gaps tokens gaps) :
    Scans (layOut tokens gaps) (tokens.map Token.word) ∧
      OffersLess (cursor.rest.dropWhile isBlank) (layOut tokens gaps) := by
  induction cursor using ofCursor.induct generalizing tokens gaps with
  | case1 cursor error next hscan =>
      rw [ofCursor_error hscan] at h
      cases h
  | case2 cursor token next hscan hkind =>
      rw [ofCursor_eof hscan hkind] at h
      cases h
      exact ⟨.nil, .of_delimited .nil⟩
  | case3 cursor token next hscan hkind ih =>
      rw [ofCursor_token hscan hkind] at h
      obtain ⟨rfl, hending⟩ := Tokens.mk.inj h
      obtain ⟨gap, gaps, rfl⟩ : ∃ gap others, gaps = gap :: others :=
        List.exists_cons_of_length_eq_add_one hgaps.length
      have hothers : Gaps (ofCursor next).items gaps :=
        ⟨Nat.succ.inj hgaps.length, fun gap hgap => hgaps.blank gap (List.mem_cons_of_mem _ hgap),
          fun i => hgaps.apart (i + 1)⟩
      obtain ⟨hscans, hoffers⟩ := ih (by rw [← hending]) hothers
      have hblank : ∀ c ∈ gap, isBlank c = true := hgaps.blank gap List.mem_cons_self
      have hlayOut : layOut (token :: (ofCursor next).items) (gap :: gaps)
          = token.text.toList ++ (gap ++ layOut (ofCursor next).items gaps) := by
        rw [layOut, List.zip_cons_cons, List.flatMap_cons, List.append_assoc]
        rfl
      have hbehind : OffersLess next.rest (gap ++ layOut (ofCursor next).items gaps) := by
        cases gap with
        | cons c gap => exact .of_delimited (delimited_of_isBlank (hblank c List.mem_cons_self) _)
        | nil =>
            cases hitems : (ofCursor next).items with
            | nil => exact .of_delimited .nil
            | cons second items =>
                -- the tokens touch in the text that was scanned, too
                have hsecond : second ∈ (ofCursor next).items.head? := by
                  rw [hitems]
                  rfl
                have htouch : token.stop = second.start :=
                  hgaps.apart 0 token second rfl (by rw [hitems]; rfl) rfl
                rw [(places_of_scan hscan).2, start_of_head? hsecond] at htouch
                have hnone : next.rest.takeWhile isBlank = [] := Pos.eq_nil_of_afterAll htouch.symm
                have hall := List.takeWhile_append_dropWhile (p := isBlank) (l := next.rest)
                rw [hnone, List.nil_append] at hall
                rw [hall, hitems] at hoffers
                exact hoffers
      obtain ⟨hrest, hlexeme⟩ := Cursor.scan_eq_ok hscan
      have hne := Cursor.text_ne_nil hscan hkind
      rw [hrest] at hlexeme
      rw [hrest, hlayOut]
      refine ⟨?_, hbehind.append _⟩
      have hkept := Lexeme.ofChars_offersLess hbehind hne hlexeme
      exact .token hne hkept (hscans.blanks hblank)

end Tokens

end Missive
