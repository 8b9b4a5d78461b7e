import Missive.Text.Symbol
import Missive.Token.Basic

/-!
# The lexeme at the head of a text

`Lexeme.ofChars` looks at a text that does not begin with a blank and says how much of it belongs
together and what that piece is: a token of some kind, or one of three faults.  It takes as much as
the kind allows: a name ends where no letter or digit follows, a number reaches over a point if a
digit follows the point, a string ends at the first double quote that no backslash takes.
-/

namespace Missive

open Text

/-- What a piece at the head of a text is. -/
inductive Reading
  /-- A token. -/
  | token (kind : TokenKind)
  /-- A character that begins no token. -/
  | stray (c : Char)
  /-- A `#` that no `{` follows. -/
  | looseHash
  /-- A string without its closing quote. -/
  | openString
  deriving DecidableEq, Repr

/-- A piece at the head of a text. -/
structure Lexeme where
  /-- The characters that belong to the piece. -/
  text : List Char
  reading : Reading
  deriving DecidableEq, Repr

namespace Lexeme

/-- The kind of a token that consists of one character, whatever follows. -/
def punctuation? : Char → Option TokenKind
  | '@' => some .at
  | ':' => some .colon
  | ',' => some .comma
  | '\\' => some .backslash
  | '{' => some .openBlock
  | '}' => some .closeBlock
  | '[' => some .openArray
  | ']' => some .closeArray
  | '(' => some .openParen
  | ')' => some .closeParen
  | _ => none

/-- The rest of a string up to its closing quote, given what follows the opening one.  A backslash
takes the character behind it along. -/
def stringTail? : List Char → Option (List Char)
  | [] => none
  | '"' :: _ => some ['"']
  | '\\' :: [] => none
  | '\\' :: c :: rest => (stringTail? rest).map fun tail => '\\' :: c :: tail
  | c :: rest => (stringTail? rest).map (c :: ·)

/-- The string at the head of a text, given what follows its opening quote. -/
def ofString (rest : List Char) : Lexeme :=
  match stringTail? rest with
  | some tail => ⟨'"' :: tail, .token .string⟩
  | none => ⟨'"' :: rest, .openString⟩

/-- The number at the head of a text. -/
def ofNumber (text : List Char) : Lexeme :=
  let whole := text.takeWhile isDigit
  match text.dropWhile isDigit with
  | '.' :: digit :: rest =>
    if isDigit digit then
      ⟨whole ++ '.' :: (digit :: rest).takeWhile isDigit, .token .float⟩
    else ⟨whole, .token .number⟩
  | _ => ⟨whole, .token .number⟩

/-- The piece of a text that begins with a `#`, given what follows it. -/
def ofHash : List Char → Lexeme
  | '{' :: _ => ⟨['#', '{'], .token .openMap⟩
  | _ => ⟨['#'], .looseHash⟩

/-- The lexeme at the head of a text that does not begin with a blank. -/
def ofChars : List Char → Lexeme
  | [] => ⟨[], .token .eof⟩
  | c :: rest =>
    match punctuation? c with
    | some kind => ⟨[c], .token kind⟩
    | none =>
      if c = '"' then ofString rest
      else if c = '#' then ofHash rest
      else if isDigit c then ofNumber (c :: rest)
      else if isLetter c then ⟨c :: rest.takeWhile isLetterOrDigit, .token .name⟩
      else if isVerbSymbol c then ⟨c :: rest.takeWhile isVerbPart, .token .verb⟩
      else ⟨[c], .stray c⟩

/-! ## Every lexeme but the end has a first character -/

/-- A number is not empty. -/
theorem ofNumber_text_ne_nil {c : Char} (rest : List Char) (h : isDigit c = true) :
    (ofNumber (c :: rest)).text ≠ [] := by
  unfold ofNumber
  split
  · split <;> simp [h]
  · simp [h]

/-- A string keeps at least its opening quote. -/
theorem ofString_text_ne_nil (rest : List Char) : (ofString rest).text ≠ [] := by
  unfold ofString
  split <;> simp

/-- A piece that begins with `#` keeps it. -/
theorem ofHash_text_ne_nil (rest : List Char) : (ofHash rest).text ≠ [] := by
  unfold ofHash
  split <;> simp

/-- The text of a lexeme is empty at the end of the text only. -/
theorem ofChars_text_ne_nil (c : Char) (rest : List Char) : (ofChars (c :: rest)).text ≠ [] := by
  rw [ofChars]
  cases punctuation? c with
  | some kind => simp
  | none =>
    by_cases hquote : c = '"'
    · simpa [hquote] using ofString_text_ne_nil rest
    by_cases hhash : c = '#'
    · simpa [hhash] using ofHash_text_ne_nil rest
    by_cases hdigit : isDigit c = true
    · simpa [hquote, hhash, hdigit] using ofNumber_text_ne_nil rest hdigit
    by_cases hletter : isLetter c = true
    · simp [hquote, hhash, hdigit, hletter]
    by_cases hverb : isVerbSymbol c = true <;> simp [hquote, hhash, hdigit, hletter, hverb]

end Lexeme

end Missive
