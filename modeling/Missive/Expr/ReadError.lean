import Missive.Token.Scanner

/-!
# Why a text is no program

A text is refused for what the scanner finds, for a token that does not fit, or for a whole number
that is too large.
-/

namespace Missive

/-- What has to stand in the place of a token that does not fit. -/
inductive Expectation
  | value
  | verb
  | closeParen
  | closeBlock
  | closeArray
  | mapKey
  | mapColon
  | closeMap
  | ending
  deriving DecidableEq, Repr

/-- The wording of an expectation. -/
def Expectation.message : Expectation → String
  | value => "Expected value"
  | verb => "Expected verb"
  | closeParen => "Expected ')' after expression"
  | closeBlock => "Expected '\x7d' after block items"
  | closeArray => "Expected ']' after array items"
  | mapKey => "Expected string key in map"
  | mapColon => "Expected ':' after map key"
  | closeMap => "Expected '\x7d' after map entries"
  | ending => "Expected end of input after expression"

/-- Why a text is no program. -/
inductive ReadError
  /-- The scanner finds no token. -/
  | scan (error : ScanError)
  /-- A token does not fit. -/
  | unexpectedToken (token : Token) (expected : Expectation)
  /-- A whole number is too large. -/
  | invalidLiteral (token : Token)
  deriving DecidableEq, Repr

namespace ReadError

/-- The place an error is reported for. -/
def pos : ReadError → Pos
  | scan error => error.pos
  | unexpectedToken token _ => token.start
  | invalidLiteral token => token.start

/-- The wording of an error. -/
def message : ReadError → String
  | scan error => "Lexing Error: " ++ error.message
  | unexpectedToken token expected =>
    "Parsing Error: " ++ token.start.describe ++ " Unexpected token of type "
      ++ token.kind.describe ++ " ('" ++ token.text ++ "'): " ++ expected.message
  | invalidLiteral token =>
    "Parsing Error: " ++ token.start.describe ++ " Failed to parse " ++ token.kind.describe
      ++ " literal '" ++ token.text ++ "': number too large to fit in target type"

end ReadError

end Missive
