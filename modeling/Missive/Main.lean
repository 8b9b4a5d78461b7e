import Missive.Cli

/-!
# The executable

Evaluates the expression on the command line and prints its value.
-/

/-- Prints what a run of the program leaves behind, and exits with its code. -/
def main (arguments : List String) : IO UInt32 := do
  let outcome := Missive.Cli.run Missive.Cli.nestingLimit arguments
  IO.print outcome.stdout
  IO.eprint outcome.stderr
  return outcome.exitCode.toUInt32
