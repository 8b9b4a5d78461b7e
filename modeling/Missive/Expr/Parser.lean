import Missive.Decimal.Reading
import Missive.Expr.Basic
import Missive.Expr.ReadError
import Missive.Text.Quoted

/-!
# Parsing

The parser reads tokens one at a time.  Between two tokens its `State` says what is open: the
brackets around the place, and in each of them the operators that wait for the value under way.
A token either leads to the next state or does not fit, and whether it fits depends on the state
and on its kind only.

* A value is a closed expression, or one with an `@` or a quoted message before it.  A colon behind
  a closed expression makes it the left side of a pair; nothing else takes a colon, so `@a:b`
  defers the whole pair.
* A verb behind a value sends a message.  Sends group to the left.  The value of a map entry takes
  no verb.
* A whole number that is too large is noticed only when the token behind it has been scanned, so an
  error of the scanner in that place comes first.
-/

namespace Missive

/-- The two brackets around rows of items. -/
inductive Bracket
  | block
  | array
  deriving DecidableEq, Repr

namespace Bracket

/-- The token that closes the bracket. -/
def close : Bracket → TokenKind
  | block => .closeBlock
  | array => .closeArray

/-- The expression that the bracket makes of its items. -/
def expr : Bracket → List Expr → Expr
  | block => .block
  | array => .array

/-- What is missing when the row neither goes on nor ends. -/
def expectation : Bracket → Expectation
  | block => .closeBlock
  | array => .closeArray

end Bracket

namespace Parser

/-- What waits for the value under way. -/
inductive Operator
  /-- An `@`. -/
  | later
  /-- The left side of a pair and its colon. -/
  | pair (left : Expr)
  /-- A backslash and a verb. -/
  | message (verb : String)
  /-- A subject and a verb. -/
  | send (subject : Expr) (verb : String)

/-- The expression that an operator makes of its value. -/
def Operator.apply : Operator → Expr → Expr
  | later, e => .later e
  | pair left, e => .pair left e
  | message verb, e => .message verb e
  | send subject verb, e => .send subject verb e

/-- Applies the waiting operators, the innermost one first. -/
def settle (operators : List Operator) (e : Expr) : Expr :=
  operators.foldl (fun e operator => operator.apply e) e

/-- An open bracket with what it holds so far, the latest first. -/
inductive Enclosure
  | paren
  | items (bracket : Bracket) (earlier : List Expr)
  /-- A map and the key of the entry under way. -/
  | entry (earlier : List (String × Expr)) (key : String)

/-- What is missing when the value in a bracket is neither followed up nor closed. -/
def Enclosure.expectation : Enclosure → Expectation
  | paren => .closeParen
  | items bracket _ => bracket.expectation
  | entry _ _ => .closeMap

/-- What the next token is about. -/
inductive Mode
  /-- A value has to begin. -/
  | value
  /-- Behind `(`: a value or `)`. -/
  | parenOpened
  /-- Behind `{` or `[`: a value or the closing bracket. -/
  | bracketOpened (bracket : Bracket)
  /-- Behind `#{`: a key or `}`. -/
  | mapOpened
  /-- Behind the comma of a map: a key. -/
  | mapKey (earlier : List (String × Expr))
  /-- Behind a key: its colon. -/
  | mapColon (earlier : List (String × Expr)) (key : String)
  /-- Behind a backslash: a verb. -/
  | verb
  /-- Behind a closed expression. -/
  | closed (e : Expr)
  /-- Behind a whole number that is too large. -/
  | oversized (literal : Token)

/-- What is open between two tokens. -/
structure State where
  /-- The operators that wait in the innermost bracket, the innermost one first. -/
  operators : List Operator
  /-- The open brackets from the inside out, each with the operators that wait around it. -/
  enclosures : List (Enclosure × List Operator)
  mode : Mode

/-- Before the first token. -/
def start : State := ⟨[], [], .value⟩

/-! ## Literals -/

/-- The greatest whole number. -/
def greatestInt : Nat := 9223372036854775807

/-- The mode behind a whole number. -/
def numberMode (literal : Token) : Mode :=
  let n := natOfDigits literal.text.toList
  if n ≤ greatestInt then .closed (.int (Int64.ofNat n)) else .oversized literal

/-- The number that digits around a point stand for. -/
def floatLiteral (text : List Char) : Float :=
  (Decimal.ofDigits (text.takeWhile Text.isDigit) (text.dropWhile Text.isDigit).tail).toFloat

namespace State

/-- The state with another mode. -/
def withMode (state : State) (mode : Mode) : State :=
  { state with mode }

/-- Inside a new bracket. -/
def enter (state : State) (enclosure : Enclosure) : State where
  operators := []
  enclosures := (enclosure, state.operators) :: state.enclosures
  mode := .value

/-- Waiting for the value of an operator. -/
def await (state : State) (operator : Operator) : State where
  operators := operator :: state.operators
  enclosures := state.enclosures
  mode := .value

/-! ## The next state -/

/-- Behind the first token of a value. -/
def beginValue? (state : State) (token : Token) : Option State :=
  match token.kind with
  | .at => some (state.await .later)
  | .openParen => some (state.withMode .parenOpened)
  | .openBlock => some (state.withMode (.bracketOpened .block))
  | .openArray => some (state.withMode (.bracketOpened .array))
  | .openMap => some (state.withMode .mapOpened)
  | .number => some (state.withMode (numberMode token))
  | .float => some (state.withMode (.closed (.float (floatLiteral token.text.toList))))
  | .string => some (state.withMode (.closed (.string (Text.unquote token.text))))
  | .name => some (state.withMode (.closed (.name token.text)))
  | .backslash => some (state.withMode .verb)
  | _ => none

/-- Behind a key, given the entries before it. -/
def key? (state : State) (earlier : List (String × Expr)) (token : Token) : Option State :=
  if token.kind = .string then some (state.withMode (.mapColon earlier (Text.unquote token.text)))
  else none

/-- Behind a verb, which sends a message to the expression before it. -/
def send? (state : State) (e : Expr) (token : Token) : Option State :=
  if token.kind = .verb ∨ token.kind = .name then
    some { state with operators := [.send e token.text], mode := .value }
  else none

/-- Behind the token that follows a whole expression in the innermost bracket: the expression takes
a verb, or the bracket takes a comma or is closed. -/
def follow? (state : State) (e : Expr) (token : Token) : Option State :=
  match state.enclosures with
  | [] => state.send? e token
  | (.paren, outer) :: enclosures =>
    if token.kind = .closeParen then some ⟨outer, enclosures, .closed e⟩
    else state.send? e token
  | (.items bracket earlier, outer) :: enclosures =>
    if token.kind = bracket.close then
      some ⟨outer, enclosures, .closed (bracket.expr (e :: earlier).reverse)⟩
    else if token.kind = .comma then
      some ⟨[], (.items bracket (e :: earlier), outer) :: enclosures, .value⟩
    else state.send? e token
  | (.entry earlier key, outer) :: enclosures =>
    if token.kind = .closeBlock then
      some ⟨outer, enclosures, .closed (.map ((key, e) :: earlier).reverse)⟩
    else if token.kind = .comma then some ⟨outer, enclosures, .mapKey ((key, e) :: earlier)⟩
    else none

/-- The state behind a token, if the token fits. -/
def next? (state : State) (token : Token) : Option State :=
  match state.mode with
  | .value => state.beginValue? token
  | .parenOpened =>
    if token.kind = .closeParen then some (state.withMode (.closed .nil))
    else (state.enter .paren).beginValue? token
  | .bracketOpened bracket =>
    if token.kind = bracket.close then some (state.withMode (.closed (bracket.expr [])))
    else (state.enter (.items bracket [])).beginValue? token
  | .mapOpened =>
    if token.kind = .closeBlock then some (state.withMode (.closed (.map [])))
    else state.key? [] token
  | .mapKey earlier => state.key? earlier token
  | .mapColon earlier key =>
    if token.kind = .colon then some (state.enter (.entry earlier key)) else none
  | .verb =>
    if token.kind = .verb ∨ token.kind = .name then some (state.await (.message token.text))
    else none
  | .closed e =>
    if token.kind = .colon then some (state.await (.pair e))
    else state.follow? (settle state.operators e) token
  | .oversized _ => none

/-- What has to stand in the place of a token that does not fit. -/
def expectation (state : State) : Expectation :=
  match state.mode with
  | .value | .parenOpened | .bracketOpened _ | .oversized _ => .value
  | .mapOpened | .mapKey _ => .mapKey
  | .mapColon _ _ => .mapColon
  | .verb => .verb
  | .closed _ =>
    match state.enclosures with
    | [] => .ending
    | (enclosure, _) :: _ => enclosure.expectation

/-- Why the parser stops at a token that does not fit. -/
def refuse (state : State) (token : Token) : ReadError :=
  match state.mode with
  | .oversized literal => .invalidLiteral literal
  | _ => .unexpectedToken token state.expectation

/-- Reads a token. -/
def step (state : State) (token : Token) : Except ReadError State :=
  match state.next? token with
  | some state => .ok state
  | none => .error (state.refuse token)

/-- The program that has been read, if it is complete. -/
def result? (state : State) : Option Expr :=
  match state.mode, state.enclosures with
  | .closed e, [] => some (settle state.operators e)
  | _, _ => none

/-- Reads the token that marks the end of the text. -/
def finish (state : State) (eof : Token) : Except ReadError Expr :=
  match state.result? with
  | some e => .ok e
  | none => .error (state.refuse eof)

end State

/-- Reads all tokens of a text. -/
def run (tokens : Tokens) : Except ReadError Expr := do
  let state ← tokens.items.foldlM State.step start
  match tokens.ending with
  | .error error => throw (.scan error)
  | .ok eof => state.finish eof

end Parser

/-- The parse tree of a program text. -/
def parse (source : String) : Except ReadError Expr :=
  Parser.run (Tokens.ofText source)

end Missive
