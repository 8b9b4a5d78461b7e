import Missive.Token.Scanner
import Missive.Proofs.Token.Lexeme

/-!
# The words of a text

A word is a token without its place.  `Scans` relates a text to its words without counting lines
and columns, and it is what the scanner does: `words?_ofText`.

Where one text follows another, the last lexeme of the first must not reach into the second.  It
does not if the second begins with a *delimiter*, a character that continues no lexeme; then the
words of the two texts follow each other as well (`Scans.append`).
-/

namespace Missive

open Text

/-- A token without its place. -/
structure Word where
  kind : TokenKind
  text : String
  deriving DecidableEq, Repr

/-- The word of a token. -/
def Token.word (token : Token) : Word :=
  ⟨token.kind, token.text⟩

@[simp] theorem Token.word_kind (token : Token) : token.word.kind = token.kind := rfl

@[simp] theorem Token.word_text (token : Token) : token.word.text = token.text := rfl

/-- The words of a text with the one that marks its end, if the scanner gets there. -/
def Tokens.words? (tokens : Tokens) : Option (List Word) :=
  match tokens.ending with
  | .ok eof => some ((tokens.items ++ [eof]).map Token.word)
  | .error _ => none

/-- The word that marks the end of a text. -/
def Word.eof : Word := ⟨.eof, ""⟩

/-! ## Scanning without places -/

/-- The words of a text, up to its end. -/
inductive Scans : List Char → List Word → Prop
  | nil : Scans [] []
  | blank {c : Char} {rest : List Char} {ws : List Word} :
      isBlank c = true → Scans rest ws → Scans (c :: rest) ws
  | word {c : Char} {lexeme rest : List Char} {kind : TokenKind} {ws : List Word} :
      Lexeme.ofChars (c :: (lexeme ++ rest)) = ⟨c :: lexeme, .token kind⟩ → Scans rest ws →
      Scans (c :: (lexeme ++ rest)) (⟨kind, String.ofList (c :: lexeme)⟩ :: ws)

namespace Scans

variable {text tail : List Char} {ws us : List Word}

/-- The blanks at the head of a text change nothing. -/
lemma of_dropWhile (h : Scans (text.dropWhile isBlank) ws) : Scans text ws := by
  induction text with
  | nil => exact h
  | cons c text ih =>
      by_cases hc : isBlank c = true
      · rw [List.dropWhile_cons_of_pos hc] at h
        exact .blank hc (ih h)
      · rwa [List.dropWhile_cons_of_neg hc] at h

/-- A token of one character. -/
lemma punctuation {c : Char} {kind : TokenKind} (hc : Lexeme.punctuation? c = some kind)
    (h : Scans text ws) :
    Scans (c :: text) (⟨kind, c.toString⟩ :: ws) := by
  have hlexeme : Lexeme.ofChars (c :: ([] ++ text)) = ⟨[c], .token kind⟩ :=
    Lexeme.begins_iff.1 (.punctuation hc)
  exact .word hlexeme h

/-- A text that is one lexeme. -/
lemma single {kind : TokenKind} (hne : text ≠ [])
    (h : Lexeme.ofChars text = ⟨text, .token kind⟩) :
    Scans text [⟨kind, String.ofList text⟩] := by
  cases text with
  | nil => exact absurd rfl hne
  | cons c lexeme =>
      have hword := @Scans.word c lexeme [] kind []
      rw [List.append_nil] at hword
      exact hword h .nil

/-- A token and what follows it. -/
lemma token {token : Token} (hne : token.text.toList ≠ [])
    (hlexeme : Lexeme.ofChars (token.text.toList ++ text)
      = ⟨token.text.toList, .token token.kind⟩) (h : Scans text ws) :
    Scans (token.text.toList ++ text) (token.word :: ws) := by
  have hword : token.word = ⟨token.kind, String.ofList token.text.toList⟩ := by
    rw [String.ofList_toList]
    rfl
  rw [hword]
  cases htext : token.text.toList with
  | nil => exact absurd htext hne
  | cons c lexeme =>
      rw [htext] at hlexeme
      exact .word hlexeme h

/-- Blanks before a text change nothing. -/
lemma blanks {blanks : List Char} (h : Scans text ws)
    (hblanks : ∀ c ∈ blanks, isBlank c = true) : Scans (blanks ++ text) ws := by
  induction blanks with
  | nil => exact h
  | cons c blanks ih =>
      exact .blank (hblanks c List.mem_cons_self)
        (ih fun c hc => hblanks c (List.mem_cons_of_mem _ hc))

/-- **The words of texts that follow each other.** -/
theorem append (h : Scans text ws) (htail : Delimited tail) (h' : Scans tail us) :
    Scans (text ++ tail) (ws ++ us) := by
  induction h with
  | nil => exact h'
  | blank hblank _ ih => exact .blank hblank ih
  | word hlexeme _ ih =>
      have hlonger :=
        Lexeme.ofChars_offersLess (.of_append htail _) (List.cons_ne_nil _ _) hlexeme
      rw [List.cons_append, List.append_assoc]
      exact .word hlonger ih

end Scans

/-! ## The scanner -/

namespace Cursor

/-- Behind a piece at its head the rest of a text is left. -/
lemma skip_rest {cursor : Cursor} {taken rest : List Char} (h : taken ++ rest = cursor.rest) :
    (cursor.skip taken).rest = rest := by
  rw [skip, ← h]
  exact List.drop_left

/-- What is left behind the blanks. -/
lemma skipBlanks_rest (cursor : Cursor) :
    cursor.skipBlanks.rest = cursor.rest.dropWhile isBlank :=
  skip_rest List.takeWhile_append_dropWhile

/-- A blank is skipped like any other character. -/
lemma skipBlanks_cons {c : Char} {rest : List Char} {pos : Pos} (hc : isBlank c = true) :
    skipBlanks ⟨c :: rest, pos⟩ = skipBlanks ⟨rest, pos.after c⟩ := by
  simp [skipBlanks, skip, hc, Pos.afterAll]

/-- No blank is skipped where there is none. -/
lemma skipBlanks_of_not {c : Char} {rest : List Char} {pos : Pos} (hc : isBlank c = false) :
    skipBlanks ⟨c :: rest, pos⟩ = ⟨c :: rest, pos⟩ := by
  simp [skipBlanks, skip, hc, Pos.afterAll]

/-- A scan does not depend on the blanks before it. -/
lemma scan_cons {c : Char} {rest : List Char} {pos : Pos} (hc : isBlank c = true) :
    scan ⟨c :: rest, pos⟩ = scan ⟨rest, pos.after c⟩ := by
  rw [scan, scan, skipBlanks_cons hc]

/-- A token at the head of a text is scanned, and the cursor moves behind it. -/
lemma scan_lexeme {c : Char} {lexeme rest : List Char} {kind : TokenKind} (pos : Pos)
    (h : Lexeme.ofChars (c :: (lexeme ++ rest)) = ⟨c :: lexeme, .token kind⟩) :
    scan ⟨c :: (lexeme ++ rest), pos⟩
      = (.ok ⟨kind, String.ofList (c :: lexeme), pos, pos.afterAll (c :: lexeme)⟩,
        ⟨rest, pos.afterAll (c :: lexeme)⟩) := by
  simp [scan, skipBlanks_of_not (Lexeme.isBlank_of_ofChars h), h, skip]

/-- A token is the lexeme behind the blanks, and the rest of the text follows it. -/
lemma scan_eq_ok {cursor next : Cursor} {token : Token} (h : cursor.scan = (.ok token, next)) :
    cursor.rest.dropWhile isBlank = token.text.toList ++ next.rest ∧
      Lexeme.ofChars (cursor.rest.dropWhile isBlank)
        = ⟨token.text.toList, .token token.kind⟩ := by
  obtain ⟨rest, hrest⟩ := Lexeme.ofChars_isPrefix cursor.skipBlanks.rest
  have hnext : next.rest = rest := by
    have hsnd : cursor.scan.2 = next := congrArg Prod.snd h
    rw [← hsnd, scan_snd, skip_rest hrest]
  have hlexeme : Lexeme.ofChars cursor.skipBlanks.rest
      = ⟨token.text.toList, .token token.kind⟩ := by
    generalize hlexeme : Lexeme.ofChars cursor.skipBlanks.rest = lexeme
    obtain ⟨text, reading⟩ := lexeme
    simp only [scan, hlexeme] at h
    cases reading with
    | token kind =>
        obtain rfl := Except.ok.inj (Prod.mk.inj h).1
        simp
    | _ => cases (Prod.mk.inj h).1
  rw [← skipBlanks_rest, hnext]
  refine ⟨?_, hlexeme⟩
  rw [hlexeme] at hrest
  exact hrest.symm

/-- Only the end of a text has no characters. -/
lemma text_ne_nil {cursor next : Cursor} {token : Token}
    (h : cursor.scan = (.ok token, next)) (hkind : token.kind ≠ .eof) :
    token.text.toList ≠ [] := by
  obtain ⟨hrest, hlexeme⟩ := scan_eq_ok h
  intro hnil
  rw [hrest, hnil, List.nil_append] at hlexeme
  cases hnext : next.rest with
  | nil =>
      rw [hnext] at hlexeme
      exact hkind (Reading.token.inj (Lexeme.mk.inj hlexeme).2).symm
  | cons c rest =>
      rw [hnext] at hlexeme
      exact Lexeme.ofChars_text_ne_nil c rest (congrArg Lexeme.text hlexeme)

end Cursor

namespace Tokens

section

variable {cursor cursor' next : Cursor} {token : Token} {error : ScanError}

lemma ofCursor_error (h : cursor.scan = (.error error, next)) :
    ofCursor cursor = ⟨[], .error error⟩ := by
  rw [ofCursor, h]

lemma ofCursor_eof (h : cursor.scan = (.ok token, next)) (hkind : token.kind = .eof) :
    ofCursor cursor = ⟨[], .ok token⟩ := by
  rw [ofCursor, h]
  simp [hkind]

lemma ofCursor_token (h : cursor.scan = (.ok token, next)) (hkind : token.kind ≠ .eof) :
    ofCursor cursor = ⟨token :: (ofCursor next).items, (ofCursor next).ending⟩ := by
  rw [ofCursor, h]
  simp [hkind]

/-- What is scanned first decides about the rest. -/
lemma ofCursor_congr (h : cursor.scan = cursor'.scan) : ofCursor cursor = ofCursor cursor' := by
  rcases hscan : cursor.scan with ⟨answer, next⟩
  have hscan' := h.symm.trans hscan
  cases answer with
  | error error => rw [ofCursor_error hscan, ofCursor_error hscan']
  | ok token =>
      by_cases hkind : token.kind = .eof
      · rw [ofCursor_eof hscan hkind, ofCursor_eof hscan' hkind]
      · rw [ofCursor_token hscan hkind, ofCursor_token hscan' hkind]

/-- The words behind a token follow its word. -/
lemma words?_token (h : cursor.scan = (.ok token, next)) (hkind : token.kind ≠ .eof) :
    (ofCursor cursor).words? = (ofCursor next).words?.map (token.word :: ·) := by
  rw [ofCursor_token h hkind, words?, words?]
  cases (ofCursor next).ending <;> simp

end

/-- The words of a text are found by the scanner. -/
lemma words?_of_scans {text : List Char} {ws : List Word} (h : Scans text ws) (pos : Pos) :
    (ofCursor ⟨text, pos⟩).words? = some (ws ++ [Word.eof]) := by
  induction h generalizing pos with
  | nil =>
      have hscan : Cursor.scan ⟨[], pos⟩ = (.ok ⟨.eof, "", pos, pos⟩, ⟨[], pos⟩) := rfl
      rw [ofCursor_eof hscan rfl]
      rfl
  | blank hc _ ih =>
      rw [ofCursor_congr (Cursor.scan_cons hc)]
      exact ih _
  | @word c lexeme rest kind ws hlexeme _ ih =>
      have hkind : kind ≠ .eof := by
        rintro rfl
        exact Lexeme.ofChars_reading_ne_eof c _ (congrArg Lexeme.reading hlexeme)
      rw [words?_token (Cursor.scan_lexeme pos hlexeme) hkind, ih]
      rfl

/-- A text has one sequence of words at most. -/
lemma scans_unique {text : List Char} {ws us : List Word} (h : Scans text ws) (h' : Scans text us) :
    ws = us := by
  have hwords := (words?_of_scans h .start).symm.trans (words?_of_scans h' .start)
  exact (List.append_inj' (Option.some.inj hwords) rfl).1

/-- What the scanner finds are the words of the text. -/
lemma exists_scans_of_words? (cursor : Cursor) {us : List Word}
    (h : (ofCursor cursor).words? = some us) :
    ∃ ws, us = ws ++ [Word.eof] ∧ Scans cursor.rest ws := by
  induction cursor using ofCursor.induct generalizing us with
  | case1 cursor error next hscan =>
      rw [ofCursor_error hscan] at h
      cases h
  | case2 cursor token next hscan hkind =>
      rw [ofCursor_eof hscan hkind] at h
      obtain ⟨-, hlexeme⟩ := Cursor.scan_eq_ok hscan
      cases hrest : cursor.rest.dropWhile isBlank with
      | cons c rest =>
          rw [hrest, hkind] at hlexeme
          exact absurd (congrArg Lexeme.reading hlexeme) (Lexeme.ofChars_reading_ne_eof c rest)
      | nil =>
          rw [hrest] at hlexeme
          have htext : token.text = "" :=
            String.toList_inj.1 (congrArg Lexeme.text hlexeme).symm
          refine ⟨[], ?_, .of_dropWhile ?_⟩
          · simpa [words?, Token.word, hkind, htext, Word.eof] using h.symm
          · rw [hrest]
            exact .nil
  | case3 cursor token next hscan hkind ih =>
      rw [words?_token hscan hkind] at h
      obtain ⟨us', hus', rfl⟩ := Option.map_eq_some_iff.1 h
      obtain ⟨ws, rfl, hws⟩ := ih hus'
      refine ⟨token.word :: ws, rfl, .of_dropWhile ?_⟩
      obtain ⟨hrest, hlexeme⟩ := Cursor.scan_eq_ok hscan
      rw [hrest] at hlexeme ⊢
      exact .token (Cursor.text_ne_nil hscan hkind) hlexeme hws

/-- **The scanner finds the words of a text.** -/
theorem words?_ofText {source : String} {us : List Word} :
    (ofText source).words? = some us ↔
      ∃ ws, us = ws ++ [Word.eof] ∧ Scans source.toList ws := by
  constructor
  · intro h
    exact exists_scans_of_words? (Cursor.ofText source) h
  · rintro ⟨ws, rfl, h⟩
    exact words?_of_scans h _

/-- The tokens before the end have the words of the text. -/
lemma items_of_scans {source : String} {ws : List Word} (h : Scans source.toList ws) :
    (ofText source).items.map Token.word = ws := by
  have hwords := words?_ofText.2 ⟨ws, rfl, h⟩
  rw [words?] at hwords
  split at hwords
  · rw [Option.some.injEq, List.map_append] at hwords
    exact (List.append_inj' hwords rfl).1
  · cases hwords

end Tokens

end Missive
