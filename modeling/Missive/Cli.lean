import Missive.Expr.Outline
import Missive.Program

/-!
# The command line

The program takes one expression and a few flags.  It prints the value of the expression, or its
outline, and says with its exit code whether that went well.  Arguments are read from left to right
and the first one that cannot be used decides.
-/

namespace Missive.Cli

/-- What the program is asked to do. -/
structure Options where
  expression : String
  verbose : Bool
  ast : Bool
  deriving DecidableEq, Repr

/-- Why the program does not get to its expression. -/
inductive Refusal
  /-- There is no expression. -/
  | missingArgument
  /-- An option that does not exist, or a second expression. -/
  | unknownArgument
  /-- A flag that is given twice. -/
  | argumentConflict
  /-- A flag with a value. -/
  | tooManyValues
  /-- The help is asked for. -/
  | help
  /-- The version is asked for. -/
  | version
  deriving DecidableEq, Repr

/-- The flags. -/
inductive Flag
  | verbose
  | ast
  | help
  | version
  deriving DecidableEq, Repr

/-- The flag with a long name. -/
def Flag.ofLong? : String → Option Flag
  | "verbose" => some verbose
  | "ast" => some ast
  | "help" => some help
  | "version" => some version
  | _ => none

/-- The flag with a short name. -/
def Flag.ofShort? : Char → Option Flag
  | 'v' => some verbose
  | 'h' => some help
  | 'V' => some version
  | _ => none

/-- What the arguments so far have said. -/
structure Progress where
  expression : Option String := none
  verbose : Bool := false
  ast : Bool := false
  /-- Whether the rest is taken as it is, flags or not. -/
  plain : Bool := false

namespace Progress

/-- Takes a flag. -/
def flag (progress : Progress) : Flag → Except Refusal Progress
  | .verbose =>
    if progress.verbose then .error .argumentConflict else .ok { progress with verbose := true }
  | .ast => if progress.ast then .error .argumentConflict else .ok { progress with ast := true }
  | .help => .error .help
  | .version => .error .version

/-- Takes an argument that is no flag. -/
def positional (progress : Progress) (argument : String) : Except Refusal Progress :=
  match progress.expression with
  | none => .ok { progress with expression := some argument }
  | some _ => .error .unknownArgument

/-- Takes what stands behind two hyphens: the long name of a flag, with which no value goes. -/
def long (progress : Progress) (text : List Char) : Except Refusal Progress :=
  let name := text.takeWhile (· != '=')
  match Flag.ofLong? (String.ofList name) with
  | some flag => if name.length < text.length then .error .tooManyValues else progress.flag flag
  | none => .error .unknownArgument

/-- Takes what stands behind one hyphen: short names of flags in a row. -/
def short (progress : Progress) (text : List Char) : Except Refusal Progress :=
  text.foldlM takeShort progress
where
  /-- Takes one short name. -/
  takeShort (progress : Progress) (c : Char) : Except Refusal Progress :=
    match Flag.ofShort? c with
    | some flag => progress.flag flag
    | none => .error .unknownArgument

/-- Takes an argument.  Two hyphens alone make the rest plain; one hyphen alone is an
expression. -/
def argument (progress : Progress) (argument : String) : Except Refusal Progress :=
  if progress.plain then progress.positional argument
  else
    match argument.toList with
    | ['-', '-'] => .ok { progress with plain := true }
    | '-' :: '-' :: text => progress.long text
    | '-' :: c :: text => progress.short (c :: text)
    | _ => progress.positional argument

/-- The options, once all arguments have been taken. -/
def options (progress : Progress) : Except Refusal Options :=
  match progress.expression with
  | some expression => .ok ⟨expression, progress.verbose, progress.ast⟩
  | none => .error .missingArgument

end Progress

/-- The options that arguments stand for. -/
def Options.ofArguments (arguments : List String) : Except Refusal Options := do
  let progress ← arguments.foldlM Progress.argument {}
  progress.options

/-- The text that the program prints for its options. -/
def Options.output (fuel : Nat) (options : Options) : Except (Halt Error) String :=
  if options.ast then
    match parse options.expression with
    | .ok e => .ok e.outline
    | .error error => .error (.failed (.read error))
  else Value.render <$> Missive.run fuel options.expression

/-! ## A whole run of the program -/

/-- How deep the sends of an evaluation may be nested. -/
def nestingLimit : Nat := 1000000000000

/-- What a run of the program leaves behind. -/
structure Outcome where
  exitCode : Nat
  stdout : String
  stderr : String
  deriving DecidableEq, Repr

/-- The help text. -/
def helpText : String :=
  "Usage: msg_lang [OPTIONS] <EXPRESSION>\n"
    ++ "\n"
    ++ "Arguments:\n"
    ++ "  <EXPRESSION>  Expression to evaluate\n"
    ++ "\n"
    ++ "Options:\n"
    ++ "  -v, --verbose  Print verbose log output\n"
    ++ "      --ast      Print the parse tree instead of evaluating\n"
    ++ "  -h, --help     Print help\n"
    ++ "  -V, --version  Print version\n"

/-- The version text. -/
def versionText : String := "msg_lang 0.1.0\n"

/-- What the program says when it refuses its arguments. -/
def Refusal.outcome : Refusal → Outcome
  | help => ⟨0, helpText, ""⟩
  | version => ⟨0, versionText, ""⟩
  | missingArgument => ⟨2, "", "error: the expression is missing\n"⟩
  | unknownArgument => ⟨2, "", "error: unexpected argument\n"⟩
  | argumentConflict => ⟨2, "", "error: a flag is given twice\n"⟩
  | tooManyValues => ⟨2, "", "error: a flag takes no value\n"⟩

/-- What a run of the program with the given arguments leaves behind. -/
def run (fuel : Nat) (arguments : List String) : Outcome :=
  match Options.ofArguments arguments with
  | .error refusal => refusal.outcome
  | .ok options =>
    match options.output fuel with
    | .ok text => ⟨0, text ++ "\n", ""⟩
    | .error (.failed error) => ⟨1, "", error.message ++ "\n"⟩
    | .error .outOfFuel => ⟨1, "", "The evaluation is nested too deep\n"⟩

end Missive.Cli
