import Missive.Proofs.Token.Coverage
import Missive.Proofs.Token.Strings

/-!
# The token table

The kinds of tokens are rows of a table, each with the rule by which its tokens are spelled.  The
scanner tries no row after another: the first character tells it what to do.  What it finds is what
the table says nevertheless, the longest piece that the first of the matching rules matches, and it
reports a fault exactly where no rule matches.

* `TokenKind.Selects`: the piece at the head of a text that the table selects.
* `TokenKind.ofChars_eq_token_iff`: the scanner takes the pieces that the table selects.
* `Fault`: the errors in place of a token.
* `Cursor.scan_byTable`: a scan at any place of any text.
-/

namespace Missive

open Text

/-! ## The rules -/

/-- A row of digits. -/
def Digits (text : List Char) : Prop :=
  text ≠ [] ∧ ∀ c ∈ text, isDigit c = true

/-- A character of one class with characters of another class behind it. -/
def Headed (first more : Char → Bool) (text : List Char) : Prop :=
  ∃ c rest, text = c :: rest ∧ first c = true ∧ ∀ d ∈ rest, more d = true

namespace TokenKind

/-- The kinds of tokens in the order in which they are tried. -/
def table : List TokenKind :=
  [.at, .colon, .float, .number, .string, .name, .verb, .comma, .backslash, .openBlock, .closeBlock,
    .openMap, .openArray, .closeArray, .openParen, .closeParen, .eof]

/-- The rule of each kind: how its tokens are spelled. -/
def Spells : TokenKind → List Char → Prop
  | .at, text => text = ['@']
  | .colon, text => text = [':']
  | .float, text =>
    ∃ whole fraction, text = whole ++ '.' :: fraction ∧ Digits whole ∧ Digits fraction
  | .number, text => Digits text
  | .string, text => ∃ body, text = '"' :: (body ++ ['"']) ∧ StringBody body
  | .name, text => Headed isLetter isLetterOrDigit text
  | .verb, text => Headed isVerbSymbol isVerbPart text
  | .comma, text => text = [',']
  | .backslash, text => text = ['\\']
  | .openBlock, text => text = ['{']
  | .closeBlock, text => text = ['}']
  | .openMap, text => text = ['#', '{']
  | .openArray, text => text = ['[']
  | .closeArray, text => text = [']']
  | .openParen, text => text = ['(']
  | .closeParen, text => text = [')']
  | .eof, text => text = []

/-- A rule matches a piece at the head of a text, and nothing only where nothing is left. -/
structure Matches (kind : TokenKind) (text piece : List Char) : Prop where
  spelling : kind.Spells piece
  head : piece <+: text
  ending : piece = [] → text = []

/-- The longest piece at the head of a text that a rule matches. -/
structure Longest (kind : TokenKind) (text piece : List Char) : Prop extends
    kind.Matches text piece where
  length_le {other : List Char} : kind.Matches text other → other.length ≤ piece.length

/-- The first rule of the table that matches at the head of a text, with its longest piece. -/
structure Selects (text : List Char) (kind : TokenKind) (piece : List Char) : Prop extends
    kind.Longest text piece where
  first {earlier : TokenKind} {other : List Char} :
    table.idxOf earlier < table.idxOf kind → ¬ earlier.Matches text other

variable {text piece : List Char} {kind kind' : TokenKind} {c : Char}

/-- A text selects one rule and one piece at most. -/
lemma Selects.unique {piece' : List Char} (h : Selects text kind piece)
    (h' : Selects text kind' piece') : kind = kind' ∧ piece = piece' := by
  have hmem : ∀ kind, kind ∈ table := by
    intro kind
    cases kind <;> decide
  obtain rfl : kind = kind' := by
    rcases Nat.lt_trichotomy (table.idxOf kind) (table.idxOf kind') with hlt | heq | hgt
    · exact absurd h.toMatches (h'.first hlt)
    · exact (List.idxOf_inj (hmem kind)).1 heq
    · exact absurd h'.toMatches (h.first hgt)
  refine ⟨rfl, ?_⟩
  exact (List.prefix_of_prefix_length_le h.head h'.head (h'.length_le h.toMatches)).eq_of_length_le
    (h.length_le h'.toMatches)

/-! ## Single rules -/

lemma spells_punctuation (h : Lexeme.punctuation? c = some kind) :
    kind.Spells piece ↔ piece = [c] := by
  unfold Lexeme.punctuation? at h
  split at h <;> cases h <;> rfl

/-- A token of one character. -/
lemma longest_punctuation (h : Lexeme.punctuation? c = some kind) (rest : List Char) :
    kind.Longest (c :: rest) [c] where
  spelling := (spells_punctuation h).2 rfl
  head := by simp
  ending := by simp
  length_le hother := by rw [(spells_punctuation h).1 hother.spelling]

/-- A run of characters is at most as long as the longest one. -/
lemma length_le_takeWhile {p : Char → Bool} {run : List Char} (hrun : ∀ c ∈ run, p c = true)
    (h : run <+: text) : run.length ≤ (text.takeWhile p).length := by
  obtain ⟨rest, rfl⟩ := h
  rw [List.takeWhile_append_of_pos hrun, List.length_append]
  exact Nat.le_add_right _ _

/-- Names and verbs take all that may follow their first character. -/
lemma longest_word {first more : Char → Bool}
    (hspells : ∀ piece, kind.Spells piece ↔ Headed first more piece) (hc : first c = true)
    (rest : List Char) : kind.Longest (c :: rest) (c :: rest.takeWhile more) where
  spelling := (hspells _).2 ⟨c, _, rfl, hc, fun _ hd => List.mem_takeWhile_imp hd⟩
  head := List.cons_prefix_cons.2 ⟨rfl, List.takeWhile_prefix _⟩
  ending := by simp
  length_le {other} hother := by
    obtain ⟨d, run, rfl, -, hrun⟩ := (hspells other).1 hother.spelling
    exact Nat.succ_le_succ (length_le_takeWhile hrun (List.cons_prefix_cons.1 hother.head).2)

/-- A string matches where the scanner finds its closing quote. -/
lemma matches_string_iff {rest : List Char} :
    string.Matches ('"' :: rest) piece ↔
      ∃ tail, Lexeme.stringTail? rest = some tail ∧ piece = '"' :: tail := by
  constructor
  · rintro ⟨⟨body, rfl, hbody⟩, hhead, -⟩
    exact ⟨_, Lexeme.stringTail?_of_body hbody (List.cons_prefix_cons.1 hhead).2, rfl⟩
  · rintro ⟨tail, htail, rfl⟩
    obtain ⟨body, rfl, hbody⟩ := Lexeme.body_of_stringTail? htail
    have hhead := Lexeme.stringTail?_isPrefix htail
    exact ⟨⟨body, rfl, hbody⟩, List.cons_prefix_cons.2 ⟨rfl, hhead⟩, by simp⟩

lemma longest_string {rest tail : List Char} (h : Lexeme.stringTail? rest = some tail) :
    string.Longest ('"' :: rest) ('"' :: tail) where
  toMatches := matches_string_iff.2 ⟨tail, h, rfl⟩
  length_le hother := by
    obtain ⟨tail', htail', rfl⟩ := matches_string_iff.1 hother
    rw [Option.some.inj (h.symm.trans htail')]

lemma longest_openMap (rest : List Char) : openMap.Longest ('#' :: '{' :: rest) ['#', '{'] where
  spelling := rfl
  head := by simp
  ending := by simp
  length_le hother := by rw [hother.spelling]

/-- A number takes all digits. -/
lemma longest_number (hdigit : isDigit c = true) (rest : List Char) :
    number.Longest (c :: rest) ((c :: rest).takeWhile isDigit) where
  spelling := ⟨by simp [hdigit], fun _ hd => List.mem_takeWhile_imp hd⟩
  head := List.takeWhile_prefix _
  ending := by simp [hdigit]
  length_le hother := length_le_takeWhile hother.spelling.2 hother.head

/-- A number with a fraction takes all digits before a point, and behind it at least one. -/
lemma matches_float_iff :
    float.Matches text piece ↔ ∃ fraction, Digits fraction ∧ text.takeWhile isDigit ≠ [] ∧
      '.' :: fraction <+: text.dropWhile isDigit ∧
      piece = text.takeWhile isDigit ++ '.' :: fraction := by
  constructor
  · rintro ⟨⟨whole, fraction, rfl, hwhole, hfraction⟩, ⟨rest, rfl⟩, -⟩
    have hpoint : ∀ c ∈ ('.' :: (fraction ++ rest)).head?, isDigit c = false := by
      rintro c ⟨⟩
      decide
    obtain ⟨htake, hdrop⟩ := takeWhile_run hwhole.2 hpoint
    rw [List.append_assoc, List.cons_append, htake, hdrop]
    exact ⟨fraction, hfraction, hwhole.1, ⟨rest, rfl⟩, rfl⟩
  · rintro ⟨fraction, hfraction, hwhole, hhead, rfl⟩
    refine ⟨⟨_, fraction, rfl, ⟨hwhole, fun _ hd => List.mem_takeWhile_imp hd⟩, hfraction⟩, ?_,
      by simp⟩
    conv => rhs; rw [← List.takeWhile_append_dropWhile (p := isDigit) (l := text)]
    exact (List.prefix_append_right_inj _).2 hhead

lemma longest_float {rest behind : List Char} {d : Char} (hc : isDigit c = true)
    (hbehind : (c :: rest).dropWhile isDigit = '.' :: d :: behind) (hd : isDigit d = true) :
    float.Longest (c :: rest)
      ((c :: rest).takeWhile isDigit ++ '.' :: (d :: behind).takeWhile isDigit) where
  toMatches := by
    refine matches_float_iff.2 ⟨_, ⟨by simp [hd], fun _ hd => List.mem_takeWhile_imp hd⟩,
      by simp [hc], ?_, rfl⟩
    rw [hbehind]
    exact List.cons_prefix_cons.2 ⟨rfl, List.takeWhile_prefix _⟩
  length_le hother := by
    obtain ⟨fraction, hfraction, -, hhead, rfl⟩ := matches_float_iff.1 hother
    rw [hbehind] at hhead
    have hlength := length_le_takeWhile hfraction.2 (List.cons_prefix_cons.1 hhead).2
    rw [List.length_append, List.length_append, List.length_cons, List.length_cons]
    omega

/-! ## All rules -/

/-- What the scanner takes for a token is the longest piece that the rule for its kind matches. -/
lemma longest_of_ofChars {rest : List Char}
    (h : Lexeme.ofChars (c :: rest) = ⟨piece, .token kind⟩) : kind.Longest (c :: rest) piece := by
  generalize hlexeme : (⟨piece, .token kind⟩ : Lexeme) = lexeme at h
  cases Lexeme.begins_iff.2 h with
  | punctuation hkind =>
      cases hlexeme
      exact longest_punctuation hkind rest
  | string hquote =>
      subst hquote
      unfold Lexeme.ofString at hlexeme
      split at hlexeme <;> cases hlexeme
      exact longest_string ‹_›
  | hash hhash =>
      subst hhash
      unfold Lexeme.ofHash at hlexeme
      split at hlexeme <;> cases hlexeme
      exact longest_openMap _
  | number hdigit =>
      unfold Lexeme.ofNumber at hlexeme
      split at hlexeme
      · rename_i hbehind
        split_ifs at hlexeme with hd <;> cases hlexeme
        · exact longest_float hdigit hbehind hd
        · exact longest_number hdigit rest
      · cases hlexeme
        exact longest_number hdigit rest
  | name hletter =>
      cases hlexeme
      exact longest_word (fun _ => .rfl) hletter rest
  | verb hverb =>
      cases hlexeme
      exact longest_word (fun _ => .rfl) hverb rest
  | stray => cases hlexeme

/-- Where a number matches, the scanner finds one, and with a fraction if there is one. -/
lemma reading_of_number (h : number.Matches text piece) :
    (Lexeme.ofChars text).reading = .token .number ∨
      (Lexeme.ofChars text).reading = .token .float := by
  obtain ⟨rest, rfl⟩ := h.head
  cases piece with
  | nil => exact absurd rfl h.spelling.1
  | cons c piece =>
      have hdigit : isDigit c = true := h.spelling.2 c List.mem_cons_self
      rw [List.cons_append, Lexeme.begins_iff.1 (.number hdigit)]
      unfold Lexeme.ofNumber
      split
      · split_ifs <;> simp
      · simp

/-- Where a number with a fraction matches, the scanner finds it. -/
lemma reading_of_float (h : float.Matches text piece) :
    (Lexeme.ofChars text).reading = .token .float := by
  obtain ⟨fraction, ⟨hne, hfraction⟩, hwhole, ⟨behind, hbehind⟩, -⟩ := matches_float_iff.1 h
  cases text with
  | nil => exact absurd rfl hwhole
  | cons c rest =>
      have hdigit : isDigit c = true := by
        by_contra hc
        exact hwhole (List.takeWhile_cons_of_neg hc)
      cases fraction with
      | nil => exact absurd rfl hne
      | cons d fraction =>
          have hd : isDigit d = true := hfraction d List.mem_cons_self
          rw [Lexeme.begins_iff.1 (.number hdigit), Lexeme.ofNumber, ← hbehind]
          simp [hd]

/-- Where a rule matches, the scanner finds a token of its kind, or a number with a fraction where
the rule for numbers matches the digits before the point. -/
lemma reading_of_matches (h : kind.Matches text piece) :
    (Lexeme.ofChars text).reading = .token kind ∨
      kind = .number ∧ (Lexeme.ofChars text).reading = .token .float := by
  have hsingle : ∀ {c}, piece = [c] → Lexeme.punctuation? c = some kind →
      (Lexeme.ofChars text).reading = .token kind := by
    rintro c rfl hc
    obtain ⟨rest, rfl⟩ := h.head
    rw [List.singleton_append, Lexeme.begins_iff.1 (.punctuation hc)]
  cases kind with
  | «at» | colon | comma | backslash | openBlock | closeBlock | openArray | closeArray | openParen
  | closeParen => exact .inl (hsingle h.spelling rfl)
  | float => exact .inl (reading_of_float h)
  | number => exact (reading_of_number h).imp_right fun hreading => ⟨rfl, hreading⟩
  | string =>
      obtain ⟨body, rfl, -⟩ := h.spelling
      obtain ⟨rest, rfl⟩ : ∃ rest, text = '"' :: rest := by
        obtain ⟨behind, rfl⟩ := h.head
        exact ⟨_, rfl⟩
      obtain ⟨tail, htail, -⟩ := matches_string_iff.1 h
      rw [Lexeme.begins_iff.1 (.string rfl), Lexeme.ofString, htail]
      exact .inl rfl
  | name =>
      obtain ⟨c, run, rfl, hletter, -⟩ := h.spelling
      obtain ⟨rest, rfl⟩ := h.head
      rw [List.cons_append, Lexeme.begins_iff.1 (.name hletter)]
      exact .inl rfl
  | verb =>
      obtain ⟨c, run, rfl, hverb, -⟩ := h.spelling
      obtain ⟨rest, rfl⟩ := h.head
      rw [List.cons_append, Lexeme.begins_iff.1 (.verb hverb)]
      exact .inl rfl
  | openMap =>
      obtain rfl : piece = ['#', '{'] := h.spelling
      obtain ⟨rest, rfl⟩ := h.head
      exact .inl rfl
  | eof =>
      obtain rfl := h.ending h.spelling
      exact .inl rfl

/-- What the scanner takes for a token the table selects. -/
lemma selects_of_ofChars (h : Lexeme.ofChars text = ⟨piece, .token kind⟩) :
    Selects text kind piece := by
  have hlongest : kind.Longest text piece := by
    cases text with
    | nil =>
        cases h
        exact ⟨⟨rfl, List.prefix_refl _, id⟩, fun hother => hother.head.length_le⟩
    | cons c rest => exact longest_of_ofChars h
  refine ⟨hlongest, fun {earlier other} hlt hmatches => ?_⟩
  have hreading := congrArg Lexeme.reading h
  rcases reading_of_matches hmatches with hsame | ⟨rfl, hfloat⟩
  · cases hsame.symm.trans hreading
    exact Nat.lt_irrefl _ hlt
  · cases hfloat.symm.trans hreading
    exact absurd hlt (by decide)

/-- A lexeme is a token exactly if some rule matches. -/
lemma exists_token_iff :
    (∃ kind, (Lexeme.ofChars text).reading = .token kind) ↔
      ∃ kind piece, TokenKind.Matches kind text piece := by
  constructor
  · rintro ⟨kind, hkind⟩
    have htoken : Lexeme.ofChars text = ⟨(Lexeme.ofChars text).text, .token kind⟩ := by
      rw [← hkind]
    exact ⟨kind, _, (selects_of_ofChars htoken).toMatches⟩
  · rintro ⟨kind, piece, h⟩
    rcases reading_of_matches h with hsame | ⟨-, hfloat⟩
    · exact ⟨kind, hsame⟩
    · exact ⟨.float, hfloat⟩

/-- **The token table.**  A text is taken for a token exactly if a rule matches, and then for the
one that the table selects. -/
theorem ofChars_eq_token_iff :
    Lexeme.ofChars text = ⟨piece, .token kind⟩ ↔ Selects text kind piece := by
  refine ⟨selects_of_ofChars, fun h => ?_⟩
  obtain ⟨found, hfound⟩ := exists_token_iff.2 ⟨kind, piece, h.toMatches⟩
  have hother : Lexeme.ofChars text = ⟨(Lexeme.ofChars text).text, .token found⟩ := by
    rw [← hfound]
  obtain ⟨rfl, hpiece⟩ := h.unique (selects_of_ofChars hother)
  rw [hother, hpiece]

end TokenKind

/-! ## Faults -/

/-- The errors at the head of a text that begins at a place. -/
inductive Fault (text : List Char) (pos : Pos) : ScanError → Prop
  /-- No quote closes a string. -/
  | openString {rest : List Char} : text = '"' :: rest →
      (∀ body, StringBody body → ¬ body ++ ['"'] <+: rest) →
      Fault text pos (.unterminatedString pos)
  | looseHash {got : Char} {rest : List Char} : text = '#' :: got :: rest → got ≠ '{' →
      Fault text pos (.expectedCharacter (pos.after '#') '{' got)
  | looseHashAtEnd : text = ['#'] → Fault text pos (.expectedCharacterAtEnd (pos.after '#') '{')
  /-- No rule matches, and this is neither for a missing quote nor for a missing brace. -/
  | stray {c : Char} {rest : List Char} : text = c :: rest → c ≠ '"' → c ≠ '#' →
      (∀ kind piece, ¬ TokenKind.Matches kind text piece) →
      Fault text pos (.unexpectedCharacter pos c)

/-- A character is stray where no rule matches. -/
lemma Lexeme.ofChars_stray {c : Char} {rest : List Char} (hquote : c ≠ '"') (hhash : c ≠ '#')
    (h : ∀ kind piece, ¬ TokenKind.Matches kind (c :: rest) piece) :
    ofChars (c :: rest) = ⟨[c], .stray c⟩ := by
  have htoken : ∀ {kind}, (ofChars (c :: rest)).reading ≠ .token kind := by
    intro kind hkind
    obtain ⟨found, piece, hmatches⟩ := TokenKind.exists_token_iff.1 ⟨kind, hkind⟩
    exact h found piece hmatches
  generalize hlexeme : ofChars (c :: rest) = lexeme at htoken
  cases begins_iff.2 hlexeme with
  | punctuation | name | verb => exact absurd rfl htoken
  | string hc => exact absurd hc hquote
  | hash hc => exact absurd hc hhash
  | number =>
      unfold ofNumber at htoken
      split at htoken
      · split at htoken <;> exact absurd rfl htoken
      · exact absurd rfl htoken
  | stray => rfl

namespace Cursor

variable {cursor start : Cursor} {error : ScanError}

/-- The scanner answers with an error only if there is a fault. -/
lemma fault_of_scan (h : cursor.scan.1 = .error error) :
    Fault cursor.skipBlanks.rest cursor.skipBlanks.pos error := by
  generalize hstart : cursor.skipBlanks = start
  obtain ⟨text, pos⟩ := start
  have hcut := Lexeme.cut_ofChars text
  have hmatches : ∀ {kind piece}, TokenKind.Matches kind text piece →
      ∃ found, (Lexeme.ofChars text).reading = .token found :=
    fun hmatches => TokenKind.exists_token_iff.2 ⟨_, _, hmatches⟩
  generalize hlexeme : Lexeme.ofChars text = lexeme at hcut hmatches
  simp only [scan, hstart, hlexeme] at h
  cases hcut with
  | eof | token => cases h
  | stray c =>
      cases h
      have hhead := Lexeme.ofChars_isPrefix text
      rw [hlexeme] at hhead
      obtain ⟨rest, rfl⟩ := hhead
      refine .stray rfl ?_ ?_ fun kind piece hrule => ?_
      · rintro rfl
        rw [List.singleton_append, Lexeme.begins_iff.1 (.string rfl), Lexeme.ofString] at hlexeme
        split at hlexeme <;> cases hlexeme
      · rintro rfl
        rw [List.singleton_append, Lexeme.begins_iff.1 (.hash rfl)] at hlexeme
        unfold Lexeme.ofHash at hlexeme
        split at hlexeme <;> cases hlexeme
      · obtain ⟨found, hfound⟩ := hmatches hrule
        cases hfound
  | @looseHash rest hhash hbrace =>
      subst hhash
      cases rest with
      | nil =>
          cases h
          exact .looseHashAtEnd rfl
      | cons got rest =>
          cases h
          exact .looseHash rfl fun hgot => hbrace (congrArg some hgot)
  | openString hquote =>
      cases h
      refine .openString hquote fun body hbody hhead => ?_
      subst hquote
      obtain ⟨found, hfound⟩ := hmatches (TokenKind.matches_string_iff.2
        ⟨_, Lexeme.stringTail?_of_body hbody hhead, rfl⟩)
      cases hfound

/-- Where a fault is, the scanner answers with the error for it. -/
lemma scan_of_fault (h : Fault cursor.skipBlanks.rest cursor.skipBlanks.pos error) :
    cursor.scan.1 = .error error := by
  generalize hstart : cursor.skipBlanks = start at h
  obtain ⟨text, pos⟩ := start
  cases h with
  | @openString rest htext hbody =>
      obtain rfl : text = '"' :: rest := htext
      have hlexeme : Lexeme.ofChars ('"' :: rest) = ⟨'"' :: rest, .openString⟩ := by
        rw [Lexeme.begins_iff.1 (.string rfl), Lexeme.ofString]
        cases htail : Lexeme.stringTail? rest with
        | none => rfl
        | some tail =>
            obtain ⟨body, rfl, hclosed, hhead⟩ := Lexeme.stringTail?_eq_some_iff.1 htail
            exact absurd hhead (hbody body hclosed)
      simp only [scan, hstart, hlexeme]
  | @looseHash got rest htext hgot =>
      obtain rfl : text = '#' :: got :: rest := htext
      have hlexeme : Lexeme.ofChars ('#' :: got :: rest) = ⟨['#'], .looseHash⟩ := by
        rw [Lexeme.begins_iff.1 (.hash rfl), Lexeme.ofHash]
        rintro tail ⟨⟩
        exact hgot rfl
      simp only [scan, hstart, hlexeme]
      rfl
  | looseHashAtEnd htext =>
      obtain rfl : text = ['#'] := htext
      simp only [scan, hstart]
      rfl
  | @stray c rest htext hquote hhash hrules =>
      obtain rfl : text = c :: rest := htext
      simp only [scan, hstart, Lexeme.ofChars_stray hquote hhash hrules]

/-- The answer of a scan is a token exactly if some rule matches. -/
lemma exists_error_iff : (∃ error, cursor.scan.1 = .error error) ↔
    ∀ kind piece, ¬ TokenKind.Matches kind cursor.skipBlanks.rest piece := by
  have hnone : (∀ kind piece, ¬ TokenKind.Matches kind cursor.skipBlanks.rest piece) ↔
      ¬ ∃ kind, (Lexeme.ofChars cursor.skipBlanks.rest).reading = .token kind := by
    rw [TokenKind.exists_token_iff]
    simp only [not_exists]
  rw [hnone]
  generalize hlexeme : Lexeme.ofChars cursor.skipBlanks.rest = lexeme
  obtain ⟨taken, reading⟩ := lexeme
  cases reading <;> simp [scan, hlexeme]

/-- **The scanner implements the token table.**  The text behind the blanks decides: where a rule
matches, a scan at any place of any text answers with the token that the table selects and moves
behind it, and exactly where none matches, with the error of the fault that is there. -/
theorem scan_byTable (cursor : Cursor) :
    (∀ token next, cursor.scan = (.ok token, next) ↔
      TokenKind.Selects (cursor.rest.dropWhile isBlank) token.kind token.text.toList ∧
        token.start = cursor.skipBlanks.pos ∧ token.stop = next.pos ∧
        next = cursor.skipBlanks.skip token.text.toList) ∧
    (∀ error, cursor.scan.1 = .error error ↔
      Fault (cursor.rest.dropWhile isBlank) cursor.skipBlanks.pos error) ∧
    ((∃ error, cursor.scan.1 = .error error) ↔
      ∀ kind piece, ¬ TokenKind.Matches kind (cursor.rest.dropWhile isBlank) piece) := by
  rw [← skipBlanks_rest]
  refine ⟨fun token next => ?_, fun error => ⟨fault_of_scan, scan_of_fault⟩, exists_error_iff⟩
  rw [← TokenKind.ofChars_eq_token_iff]
  constructor
  · intro h
    obtain ⟨-, hlexeme⟩ := scan_eq_ok h
    rw [← skipBlanks_rest] at hlexeme
    simp only [scan, hlexeme, Prod.mk.injEq, Except.ok.injEq] at h
    obtain ⟨htoken, hnext⟩ := h
    have hstop := congrArg Token.stop htoken
    rw [hnext] at hstop
    exact ⟨hlexeme, (congrArg Token.start htoken).symm, hstop.symm, hnext.symm⟩
  · rintro ⟨hlexeme, hstart, hstop, hnext⟩
    subst hnext
    simp only [scan, hlexeme, ← hstart, ← hstop, String.ofList_toList]

end Cursor

end Missive
