import Missive.Text.Blank
import Missive.Text.Symbol
import Missive.Text.Quoted
import Missive.Text.Escaped
import Missive.Decimal.Shortest
import Missive.Decimal.Reading
import Missive.Token.Scanner
import Missive.Expr.Outline
import Missive.Expr.Parser
import Missive.Value.Render
import Missive.Value.OfExpr
import Missive.Eval.Send
import Missive.Program
import Missive.Session.Command
import Missive.Cli
import Missive.Main
import Missive.Proofs.Text.Quoting
import Missive.Proofs.Text.Escaping
import Missive.Proofs.Token.Lexeme
import Missive.Proofs.Token.Strings
import Missive.Proofs.Token.Words
import Missive.Proofs.Token.Table
import Missive.Proofs.Token.Literals
import Missive.Proofs.Expr.Parts
import Missive.Proofs.Grammar.Basic
import Missive.Proofs.Grammar.Soundness
import Missive.Proofs.Grammar.Completeness
import Missive.Proofs.Grammar.Parsing
import Missive.Proofs.Grammar.Literals
import Missive.Proofs.Grammar.Nesting
import Missive.Proofs.Grammar.Prefix
import Missive.Proofs.Value.Alike
import Missive.Proofs.Value.Parts
import Missive.Proofs.Value.Nodes
import Missive.Proofs.Value.Entries
import Missive.Proofs.Value.KeyOrder
import Missive.Proofs.Value.Canonical
import Missive.Proofs.Render.Words
import Missive.Proofs.Grammar.Lexical
import Missive.Proofs.Render.Shape
import Missive.Proofs.Render.Weight
import Missive.Proofs.Render.Lexical
import Missive.Proofs.Render.RoundTrip
import Missive.Proofs.Outline.Words
import Missive.Proofs.Outline.Unambiguous
import Missive.Proofs.Outline.Reading
import Missive.Proofs.Frame.Lookup
import Missive.Proofs.Frame.Similar
import Missive.Proofs.Frame.Builtin
import Missive.Proofs.Frame.History
import Missive.Proofs.Eval.Interpreter
import Missive.Proofs.Eval.Operators
import Missive.Proofs.Eval.Closure
import Missive.Proofs.Eval.Outcome
import Missive.Proofs.Eval.Tables
import Missive.Proofs.Eval.Refinement
import Missive.Proofs.Eval.Written
import Missive.Proofs.Eval.Conditional
import Missive.Proofs.Eval.Coupling
import Missive.Proofs.Eval.Lockstep
import Missive.Proofs.Eval.Fuel
import Missive.Proofs.Eval.Noninterference
import Missive.Proofs.Eval.Confinement
import Missive.Proofs.Eval.Termination
import Missive.Proofs.Eval.Deferral
import Missive.Proofs.Eval.Demand
import Missive.Proofs.Token.Coverage
import Missive.Proofs.Token.Layout
import Missive.Proofs.Grammar.FirstError
import Missive.Proofs.Grammar.Layout
import Missive.Proofs.Eval.Arithmetic
import Missive.Proofs.Eval.Order
import Missive.Proofs.Eval.Provenance
import Missive.Proofs.Eval.FixedPoints
import Missive.Proofs.Eval.Failures
import Missive.Proofs.Eval.Unreachable
import Missive.Proofs.Eval.SourceOrder
import Missive.Proofs.Session.Inquiry
