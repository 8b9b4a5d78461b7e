import Missive.Proofs.Text.Quoting
import Missive.Proofs.Token.Table

/-!
# String literals

A literal is a text that the scanner takes whole for one string.  The scanner pairs backslashes from
the left to find the closing quote, while `unquote` drops a backslash wherever a double quote
follows, the closing one included.  So the two do not agree on what an escape is.  Each literal can
be told from the text that it stands for nevertheless: it has one backslash more than the text
before each quote inside, and before the closing quote unless there is none at all.  `spell` puts
these backslashes back.

Not every text has a literal.  The scanner takes a quote for the closing one unless the backslashes
before it are odd in number, so the text must have an even number of them there; and the backslashes
before the closing quote must be even in number, so the text ends with an odd one, or with none.

* `IsLiteral`, `isLiteral_iff`: the literals, and what stands between their quotes.
* `Text.unquote_spell`: what is spelled reads back, whatever it is.
* `Denotable`, `stringBody_spellBody`: the texts whose spelling is a literal.
* `isLiteral_iff_spell`: the literals are the spellings of these texts.
* `scan_unquote_quote`: what is written with `quote` is scanned whole, and how it reads back.
-/

namespace Missive

open Text

/-! ## Spelling a text -/

namespace Text

/-- A text with a backslash before each double quote. -/
def guardQuotes (text : List Char) : List Char :=
  text.flatMap fun c => if c = '"' then ['\\', '"'] else [c]

/-- What stands between the quotes of the literal for a text.  A backslash at the end of the text
would be dropped before the closing quote, so another one follows it. -/
def spellBody (text : List Char) : List Char :=
  guardQuotes text ++ if text.getLast? = some '\\' then ['\\'] else []

/-- The only text that can be a literal for the given one. -/
def spell (text : String) : String :=
  String.ofList ('"' :: (spellBody text.toList ++ ['"']))

lemma guardQuotes_cons (c : Char) (text : List Char) :
    guardQuotes (c :: text) = (if c = '"' then ['\\', '"'] else [c]) ++ guardQuotes text :=
  List.flatMap_cons

lemma guardQuotes_append (text more : List Char) :
    guardQuotes (text ++ more) = guardQuotes text ++ guardQuotes more :=
  List.flatMap_append

lemma spellBody_quote (text : List Char) :
    spellBody ('"' :: text) = '\\' :: '"' :: spellBody text := by
  cases text with
  | nil => rfl
  | cons c text => simp [spellBody, guardQuotes_cons, List.getLast?_cons_cons]

lemma spellBody_backslash {text : List Char} (h : text ≠ []) :
    spellBody ('\\' :: text) = '\\' :: spellBody text := by
  cases text with
  | nil => exact absurd rfl h
  | cons c text => simp [spellBody, guardQuotes_cons, List.getLast?_cons_cons]

lemma spellBody_plain {c : Char} (hquote : c ≠ '"') (hslash : c ≠ '\\') (text : List Char) :
    spellBody (c :: text) = c :: spellBody text := by
  cases text with
  | nil => simp [spellBody, guardQuotes, hquote, hslash]
  | cons d text => simp [spellBody, guardQuotes_cons, hquote, List.getLast?_cons_cons]

/-- No quote comes first in a spelled text but the closing one. -/
lemma head?_spellBody (text : List Char) :
    (spellBody text ++ ['"']).head? = some '"' ↔ text = [] := by
  cases text with
  | nil => simp [spellBody, guardQuotes]
  | cons c text => by_cases hquote : c = '"' <;> simp [spellBody, guardQuotes_cons, hquote]

/-- The backslashes that spelling adds are those that are dropped. -/
lemma dropEscapes_spellBody (text : List Char) : dropEscapes (spellBody text ++ ['"']) = text := by
  induction text with
  | nil => rfl
  | cons c text ih =>
      have hne : spellBody text ++ ['"'] ≠ [] := by simp
      by_cases hquote : c = '"'
      · subst hquote
        rw [spellBody_quote, List.cons_append, List.cons_append, dropEscapes_cons (by simp),
          if_pos (by simp), dropEscapes_cons hne, if_neg (by simp), ih]
      by_cases hslash : c = '\\'
      · subst hslash
        by_cases hnil : text = []
        · subst hnil
          rfl
        · rw [spellBody_backslash hnil, List.cons_append, dropEscapes_cons hne,
            if_neg fun h => hnil ((head?_spellBody text).1 h.2), ih]
      · rw [spellBody_plain hquote hslash, List.cons_append, dropEscapes_cons hne,
          if_neg fun h => hslash h.1, ih]

/-- **What is spelled reads back**, whatever it is. -/
theorem unquote_spell (text : String) : unquote (spell text) = text := by
  simp [unquote, spell, dropEscapes_spellBody]

end Text

/-! ## Literals -/

/-- A text that is one string token from its beginning to its end. -/
def IsLiteral (text : String) : Prop :=
  ∃ token next, (Cursor.ofText text).scan = (.ok token, next) ∧ token.kind = .string ∧
    token.text = text

/-- A string at the head of a text is scanned, and the cursor moves behind it. -/
lemma Cursor.scan_of_body {body : List Char} (h : StringBody body) (rest : List Char) (pos : Pos) :
    scan ⟨'"' :: (body ++ '"' :: rest), pos⟩
      = (.ok ⟨.string, String.ofList ('"' :: (body ++ ['"'])), pos,
          pos.afterAll ('"' :: (body ++ ['"']))⟩,
        ⟨rest, pos.afterAll ('"' :: (body ++ ['"']))⟩) := by
  have htext : body ++ '"' :: rest = (body ++ ['"']) ++ rest := by simp
  have hlexeme := Lexeme.ofChars_of_body h rest
  rw [htext] at hlexeme ⊢
  exact scan_lexeme pos hlexeme

/-- A string token is a body between two quotes. -/
lemma Cursor.exists_body_of_scan {cursor next : Cursor} {token : Token}
    (h : cursor.scan = (.ok token, next)) (hkind : token.kind = .string) :
    ∃ body, token.text.toList = '"' :: (body ++ ['"']) ∧ StringBody body := by
  have hspells := (TokenKind.selects_of_ofChars (scan_eq_ok h).2).spelling
  rwa [hkind] at hspells

/-- What stands between the quotes of a literal. -/
lemma isLiteral_iff {text : String} :
    IsLiteral text ↔ ∃ body, text.toList = '"' :: (body ++ ['"']) ∧ StringBody body := by
  constructor
  · rintro ⟨token, next, hscan, hkind, rfl⟩
    exact Cursor.exists_body_of_scan hscan hkind
  · rintro ⟨body, htext, hbody⟩
    have hscan := Cursor.scan_of_body hbody [] .start
    rw [← htext] at hscan
    exact ⟨_, _, hscan, rfl, String.ofList_toList⟩

/-- A string token is a literal, wherever it is found. -/
lemma Cursor.isLiteral_of_scan {cursor next : Cursor} {token : Token}
    (h : cursor.scan = (.ok token, next)) (hkind : token.kind = .string) : IsLiteral token.text :=
  isLiteral_iff.2 (exists_body_of_scan h hkind)

/-! ## Which texts have literals -/

/-- What a text must be like for a literal to stand for it: the backslashes before a double quote
are even in number, and those at the end are odd in number if there are any. -/
structure Denotable (text : List Char) : Prop where
  guarded (before after : List Char) :
    text = before ++ '"' :: after → Even (trailingBackslashes before)
  ending : trailingBackslashes text = 0 ∨ Odd (trailingBackslashes text)

/-- No backslash is added at the end. -/
lemma trailingBackslashes_guardQuotes (text : List Char) :
    trailingBackslashes (guardQuotes text) = trailingBackslashes text := by
  induction text using List.reverseRecOn with
  | nil => rfl
  | append_singleton text c ih =>
      rw [guardQuotes_append, trailingBackslashes_concat]
      by_cases hquote : c = '"'
      · subst hquote
        have hsplit : guardQuotes text ++ guardQuotes ['"']
            = guardQuotes text ++ ['\\'] ++ ['"'] := by
          simp [guardQuotes]
        rw [hsplit, trailingBackslashes_concat, if_neg (by decide), if_neg (by decide)]
      · have hsame : guardQuotes [c] = [c] := by simp [guardQuotes, hquote]
        rw [hsame, trailingBackslashes_concat, ih]

/-- One backslash is added to those at the end, if there are any. -/
lemma trailingBackslashes_spellBody (text : List Char) :
    trailingBackslashes (spellBody text)
      = if trailingBackslashes text = 0 then 0 else trailingBackslashes text + 1 := by
  by_cases hnone : trailingBackslashes text = 0
  · have hlast : text.getLast? ≠ some '\\' := fun h => (getLast?_eq_backslash_iff text).1 h hnone
    rw [spellBody, if_neg hlast, List.append_nil, trailingBackslashes_guardQuotes, if_pos hnone,
      hnone]
  · rw [spellBody, if_pos ((getLast?_eq_backslash_iff text).2 hnone), trailingBackslashes_concat,
      trailingBackslashes_guardQuotes, if_pos rfl, if_neg hnone]

/-- The quotes of a guarded text are those of the text, each with a backslash before it. -/
lemma guardQuotes_eq_append {text before after : List Char}
    (h : guardQuotes text = before ++ '"' :: after) :
    ∃ left right, text = left ++ '"' :: right ∧ before = guardQuotes left ++ ['\\'] := by
  induction text generalizing before with
  | nil => simp [guardQuotes] at h
  | cons c text ih =>
      rw [guardQuotes_cons] at h
      by_cases hquote : c = '"'
      · subst hquote
        cases before with
        | nil => simp at h
        | cons d before =>
            obtain ⟨rfl, hrest⟩ := List.cons.inj h
            cases before with
            | nil => exact ⟨[], text, rfl, rfl⟩
            | cons e before =>
                obtain ⟨rfl, hmore⟩ := List.cons.inj hrest
                obtain ⟨left, right, rfl, rfl⟩ := ih hmore
                exact ⟨'"' :: left, right, rfl, by simp [guardQuotes_cons]⟩
      · rw [if_neg hquote] at h
        cases before with
        | nil => exact absurd (List.cons.inj h).1 hquote
        | cons d before =>
            obtain ⟨rfl, hrest⟩ := List.cons.inj h
            obtain ⟨left, right, rfl, rfl⟩ := ih hrest
            exact ⟨c :: left, right, rfl, by simp [guardQuotes_cons, hquote]⟩

/-- What is spelled has no other quotes than what is guarded. -/
lemma exists_split_spellBody {text before : List Char} :
    (∃ after, spellBody text = before ++ '"' :: after) ↔
      ∃ left right, text = left ++ '"' :: right ∧ before = guardQuotes left ++ ['\\'] := by
  constructor
  · rintro ⟨after, h⟩
    -- what is added at the end has no quote
    have hending : ∀ behind, (if text.getLast? = some '\\' then ['\\'] else [])
        ≠ behind ++ '"' :: after := by
      intro behind hbehind
      have hmem : '"' ∈ behind ++ '"' :: after := by simp
      rw [← hbehind] at hmem
      split_ifs at hmem <;> simp at hmem
    rcases List.append_eq_append_iff.1 h with ⟨behind, -, hafter⟩ | ⟨behind, htext, hafter⟩
    · exact absurd hafter (hending behind)
    · cases behind with
      | nil => exact absurd hafter.symm (hending [])
      | cons d behind =>
          obtain ⟨rfl, -⟩ := List.cons.inj hafter
          exact guardQuotes_eq_append htext
  · rintro ⟨left, right, rfl, rfl⟩
    simp [spellBody, guardQuotes_append, guardQuotes_cons]

/-- **The spelling of a text is a literal exactly if the text is denotable**: before each quote one
backslash is added, and so is one at the end unless there is none. -/
lemma stringBody_spellBody (text : List Char) : StringBody (spellBody text) ↔ Denotable text := by
  have hguarded : ∀ left, Odd (trailingBackslashes (guardQuotes left ++ ['\\'])) ↔
      Even (trailingBackslashes left) := by
    intro left
    rw [trailingBackslashes_concat, if_pos rfl, trailingBackslashes_guardQuotes, Nat.odd_add_one,
      Nat.not_odd_iff_even]
  have hclosed : Even (trailingBackslashes (spellBody text)) ↔
      trailingBackslashes text = 0 ∨ Odd (trailingBackslashes text) := by
    rw [trailingBackslashes_spellBody]
    split_ifs with hnone
    · simp [hnone]
    · rw [Nat.even_add_one, Nat.not_even_iff_odd, or_iff_right hnone]
  constructor
  · intro h
    refine ⟨fun left right htext => ?_, hclosed.1 h.closed⟩
    obtain ⟨after, hbody⟩ := exists_split_spellBody.2 ⟨left, right, htext, rfl⟩
    exact (hguarded left).1 (h.taken _ after hbody)
  · intro h
    refine ⟨fun before after hbody => ?_, hclosed.2 h.ending⟩
    obtain ⟨left, right, htext, rfl⟩ := exists_split_spellBody.1 ⟨after, hbody⟩
    exact (hguarded left).2 (h.guarded left right htext)

instance (text : List Char) : Decidable (Denotable text) :=
  decidable_of_iff _ (stringBody_spellBody text)

/-- What the scanner reads up to the closing quote is a spelled text. -/
lemma Lexeme.exists_spellBody {text : List Char} : ∀ {tail : List Char},
    stringTail? text = some tail → ∃ spelled, tail = spellBody spelled ++ ['"'] := by
  fun_induction stringTail? text with
  | case1 | case3 => simp
  | case2 rest =>
      rintro tail ⟨⟩
      exact ⟨[], rfl⟩
  | case4 c rest ih =>
      intro tail h
      obtain ⟨tail', htail', rfl⟩ := Option.map_eq_some_iff.1 h
      obtain ⟨spelled, rfl⟩ := ih htail'
      by_cases hquote : c = '"'
      · subst hquote
        exact ⟨'"' :: spelled, by rw [spellBody_quote, List.cons_append, List.cons_append]⟩
      by_cases hslash : c = '\\'
      · subst hslash
        by_cases hnil : spelled = []
        -- the second of two backslashes before the closing quote is the one that is added
        · subst hnil
          exact ⟨['\\'], rfl⟩
        · refine ⟨'\\' :: '\\' :: spelled, ?_⟩
          rw [spellBody_backslash (List.cons_ne_nil _ _), spellBody_backslash hnil,
            List.cons_append, List.cons_append]
      · refine ⟨'\\' :: c :: spelled, ?_⟩
        rw [spellBody_backslash (List.cons_ne_nil _ _), spellBody_plain hquote hslash,
          List.cons_append, List.cons_append]
  | case5 c rest hquote hlast hmore ih =>
      intro tail h
      obtain ⟨tail', htail', rfl⟩ := Option.map_eq_some_iff.1 h
      obtain ⟨spelled, rfl⟩ := ih htail'
      have hslash := ne_backslash hlast hmore
      exact ⟨c :: spelled, by rw [spellBody_plain hquote hslash, List.cons_append]⟩

/-- **The literals are the spellings of the denotable texts.** -/
theorem isLiteral_iff_spell {literal : String} :
    IsLiteral literal ↔ ∃ text, Denotable text.toList ∧ spell text = literal := by
  rw [isLiteral_iff]
  constructor
  · rintro ⟨body, hliteral, hbody⟩
    obtain ⟨spelled, hspelled⟩ :=
      Lexeme.exists_spellBody (Lexeme.stringTail?_of_body hbody (List.prefix_refl _))
    obtain rfl := List.append_cancel_right hspelled
    refine ⟨String.ofList spelled, ?_, ?_⟩
    · rw [String.toList_ofList]
      exact (stringBody_spellBody spelled).1 hbody
    · rw [spell, String.toList_ofList, ← hliteral, String.ofList_toList]
  · rintro ⟨text, htext, rfl⟩
    exact ⟨_, String.toList_ofList, (stringBody_spellBody _).2 htext⟩

/-- **A literal can be told from what it stands for.** -/
theorem unquote_injOn : Set.InjOn unquote {literal | IsLiteral literal} := by
  intro literal h literal' h' heq
  obtain ⟨text, -, rfl⟩ := isLiteral_iff_spell.1 h
  obtain ⟨text', -, rfl⟩ := isLiteral_iff_spell.1 h'
  rw [unquote_spell, unquote_spell] at heq
  rw [heq]

/-- **What literals stand for** are the denotable texts. -/
theorem exists_literal_iff {text : String} :
    (∃ literal, IsLiteral literal ∧ unquote literal = text) ↔ Denotable text.toList := by
  constructor
  · rintro ⟨literal, h, rfl⟩
    obtain ⟨text, htext, rfl⟩ := isLiteral_iff_spell.1 h
    rwa [unquote_spell]
  · intro h
    exact ⟨spell text, isLiteral_iff_spell.2 ⟨text, h, rfl⟩, unquote_spell text⟩

/-- Two backslashes have no literal, and neither has a double quote behind one. -/
example : ¬ Denotable ['\\', '\\'] ∧ ¬ Denotable ['\\', '"'] ∧ Denotable ['\\', '\\', '"'] := by
  decide

/-! ## Written strings -/

/-- **A written string** is scanned whole, whatever follows it.  It reads back with each backslash
doubled that is not its last character, so it reads back as it was exactly if there is none. -/
theorem scan_unquote_quote :
    (∀ text rest pos, Cursor.scan ⟨(quote text).toList ++ rest, pos⟩
      = (.ok ⟨.string, quote text, pos, pos.afterAll (quote text).toList⟩,
        ⟨rest, pos.afterAll (quote text).toList⟩)) ∧
    (∀ text, unquote (quote text) = String.ofList (doubleInner text.toList)) ∧
    ∀ text, unquote (quote text) = text ↔ Plain text := by
  refine ⟨fun text rest pos => ?_, unquote_quote_eq, fun text => ?_⟩
  · have hscan := Cursor.scan_of_body (stringBody_escapeQuotes text.toList) rest pos
    simpa [quote] using hscan
  · refine ⟨fun h => ?_, unquote_quote_of_plain⟩
    exact plain_of_length_le (Nat.le_of_eq (congrArg String.length h))

/-- The closing quote takes the place of the second backslash at the end. -/
example : unquote (quote "a\\b\\") = "a\\\\b\\" := by
  decide

end Missive
