import Missive.Text.Blank
import Missive.Token.Lexeme

/-!
# Scanning a text into tokens

A `Cursor` is a place in a text.  `Cursor.scan` skips blanks, takes the lexeme behind them and
answers with a token or an error; either way the cursor stands behind what was taken, so scanning
can go on after an error.  `Tokens.ofCursor` scans up to the end of the text or the first error.

* `Cursor.length_scan_lt`: a scan that does not answer with the end of the text shortens it, which
  is why `Tokens.ofCursor` comes to an end.
-/

namespace Missive

/-- Why a place in a text has no token. -/
inductive ScanError
  /-- A character that begins no token. -/
  | unexpectedCharacter (pos : Pos) (c : Char)
  /-- Another character where a certain one has to follow. -/
  | expectedCharacter (pos : Pos) (expected got : Char)
  /-- The end of the text where a certain character has to follow. -/
  | expectedCharacterAtEnd (pos : Pos) (expected : Char)
  /-- A string that is still open at the end of the text. -/
  | unterminatedString (pos : Pos)
  deriving DecidableEq, Repr

namespace ScanError

/-- The place an error is reported for. -/
def pos : ScanError → Pos
  | unexpectedCharacter pos _ => pos
  | expectedCharacter pos _ _ => pos
  | expectedCharacterAtEnd pos _ => pos
  | unterminatedString pos => pos

/-- The wording of an error. -/
def message : ScanError → String
  | unexpectedCharacter pos c =>
    pos.describe ++ " Unexpected character '" ++ c.toString ++ "'"
  | expectedCharacter pos expected got =>
    pos.describe ++ " Unexpected character; expected '" ++ expected.toString ++ "', got '"
      ++ got.toString ++ "'"
  | expectedCharacterAtEnd pos expected =>
    pos.describe ++ " Unexpected end of input; expected '" ++ expected.toString ++ "'"
  | unterminatedString pos => pos.describe ++ " Unterminated string"

end ScanError

/-- A place in a text: what follows it, and its position. -/
structure Cursor where
  rest : List Char
  pos : Pos
  deriving DecidableEq, Repr

namespace Cursor

/-- The place before a text. -/
def ofText (text : String) : Cursor where
  rest := text.toList
  pos := Pos.start

/-- The place behind the given characters, with which the rest of the text begins. -/
def skip (cursor : Cursor) (taken : List Char) : Cursor where
  rest := cursor.rest.drop taken.length
  pos := cursor.pos.afterAll taken

/-- The place behind the blanks that follow. -/
def skipBlanks (cursor : Cursor) : Cursor :=
  cursor.skip (cursor.rest.takeWhile Text.isBlank)

/-- The error of a `#` that no `{` follows, for the place behind the `#`. -/
def hashError (cursor : Cursor) : ScanError :=
  match cursor.rest with
  | got :: _ => .expectedCharacter cursor.pos '{' got
  | [] => .expectedCharacterAtEnd cursor.pos '{'

/-- The next token, or the error in its place, and the cursor behind it. -/
def scan (cursor : Cursor) : Except ScanError Token × Cursor :=
  let start := cursor.skipBlanks
  let lexeme := Lexeme.ofChars start.rest
  let stop := start.skip lexeme.text
  match lexeme.reading with
  | .token kind => (.ok ⟨kind, String.ofList lexeme.text, start.pos, stop.pos⟩, stop)
  | .stray c => (.error (.unexpectedCharacter start.pos c), stop)
  | .looseHash => (.error stop.hashError, stop)
  | .openString => (.error (.unterminatedString start.pos), stop)

/-- The answers of the given number of scans, one after the other, whatever they are. -/
def scanMany (cursor : Cursor) : Nat → List (Except ScanError Token)
  | 0 => []
  | n + 1 =>
    let (answer, next) := cursor.scan
    answer :: next.scanMany n

/-! ## Scanning makes progress -/

/-- Skipping never lengthens the text. -/
theorem length_skip_le (cursor : Cursor) (taken : List Char) :
    (cursor.skip taken).rest.length ≤ cursor.rest.length := by
  simp [skip]

/-- Where the cursor stands after a scan does not depend on the answer. -/
theorem scan_snd (cursor : Cursor) :
    cursor.scan.2 = cursor.skipBlanks.skip (Lexeme.ofChars cursor.skipBlanks.rest).text := by
  simp only [scan]
  split <;> rfl

/-- A scan that does not answer with the end of the text shortens what follows. -/
theorem length_scan_lt {cursor next : Cursor} {token : Token}
    (h : cursor.scan = (.ok token, next)) (hkind : token.kind ≠ .eof) :
    next.rest.length < cursor.rest.length := by
  have hnext : next = _ := (congrArg Prod.snd h).symm.trans cursor.scan_snd
  rw [hnext]
  have hblank : cursor.skipBlanks.rest.length ≤ cursor.rest.length := length_skip_le _ _
  cases hrest : cursor.skipBlanks.rest with
  | nil =>
    simp only [scan, hrest, Lexeme.ofChars, Prod.mk.injEq, Except.ok.injEq] at h
    exact absurd (congrArg Token.kind h.1).symm hkind
  | cons c rest =>
    have hpos := List.length_pos_iff.2 (Lexeme.ofChars_text_ne_nil c rest)
    simp only [skip, hrest, List.length_drop, List.length_cons] at hblank ⊢
    omega

end Cursor

/-- The tokens of a text up to its end or its first error. -/
structure Tokens where
  /-- The tokens before the end. -/
  items : List Token
  /-- The token that marks the end of the text, or the error that stands in the way of it. -/
  ending : Except ScanError Token

namespace Tokens

/-- Scans up to the end of the text or the first error. -/
def ofCursor (cursor : Cursor) : Tokens :=
  match _ : cursor.scan with
  | (.error error, _) => ⟨[], .error error⟩
  | (.ok token, next) =>
    if _ : token.kind = .eof then ⟨[], .ok token⟩
    else
      let tokens := ofCursor next
      { tokens with items := token :: tokens.items }
termination_by cursor.rest.length
decreasing_by exact Cursor.length_scan_lt ‹_› ‹_›

/-- The tokens of a text. -/
def ofText (text : String) : Tokens :=
  ofCursor (Cursor.ofText text)

/-- All answers of the scanner in order: the tokens, and then the end or the error. -/
def toList (tokens : Tokens) : List (Except ScanError Token) :=
  tokens.items.map .ok ++ [tokens.ending]

end Tokens

end Missive
