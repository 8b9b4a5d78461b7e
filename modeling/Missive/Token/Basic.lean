/-!
# Tokens

A token is a piece of program text with its kind and the positions of its two ends.  Positions
count lines and, within a line, characters, both from one; only a newline ends a line.
-/

namespace Missive

/-- A place in a text, between two characters. -/
structure Pos where
  line : Nat
  column : Nat
  deriving DecidableEq, Repr

namespace Pos

/-- The place before the first character of a text. -/
def start : Pos := ⟨1, 1⟩

/-- The place behind a character. -/
def after (pos : Pos) (c : Char) : Pos :=
  if c = '\n' then ⟨pos.line + 1, 1⟩ else ⟨pos.line, pos.column + 1⟩

/-- The place behind a text. -/
def afterAll (pos : Pos) (text : List Char) : Pos :=
  text.foldl after pos

/-- How error messages name a place. -/
def describe (pos : Pos) : String :=
  "[line " ++ toString pos.line ++ " column " ++ toString pos.column ++ "]"

end Pos

/-- The kinds of tokens. -/
inductive TokenKind
  | at | colon
  | float | number | string
  | name | verb
  | comma | backslash
  | openBlock | closeBlock
  | openMap
  | openArray | closeArray
  | openParen | closeParen
  | eof
  deriving DecidableEq, Repr

/-- How error messages name a kind of token. -/
def TokenKind.describe : TokenKind → String
  | .at => "at"
  | .colon => "colon"
  | .float => "float"
  | .number => "number"
  | .string => "string"
  | .name => "name"
  | .verb => "verb"
  | .comma => "sep"
  | .backslash => "bslash"
  | .openBlock => "oblock"
  | .closeBlock => "cblock"
  | .openMap => "omap"
  | .openArray => "oarray"
  | .closeArray => "carray"
  | .openParen => "opar"
  | .closeParen => "cpar"
  | .eof => "eof"

/-- A piece of program text.  A string token keeps its quotes; the token that marks the end of the
text is empty. -/
structure Token where
  kind : TokenKind
  text : String
  start : Pos
  stop : Pos
  deriving DecidableEq, Repr

end Missive
