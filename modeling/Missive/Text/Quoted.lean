/-!
# String literals

`quote` writes a text as a string literal: double quotes around it, and a backslash before every
double quote and every backslash inside.  `unquote` reads the text of a literal.  The two are *not*
inverse to each other: a literal has one escape only, the double quote, so `unquote` drops a
backslash exactly where a double quote follows and keeps every other one.  The closing quote counts
as a following quote.
-/

namespace Missive.Text

/-- The characters of a text with a backslash before each double quote and each backslash. -/
def escapeQuotes : List Char → List Char
  | [] => []
  | c :: rest =>
    if c = '"' ∨ c = '\\' then '\\' :: c :: escapeQuotes rest else c :: escapeQuotes rest

/-- A text as a string literal. -/
def quote (text : String) : String :=
  String.ofList ('"' :: escapeQuotes text.toList ++ ['"'])

/-- All characters but the last, without those backslashes that a double quote follows. -/
def dropEscapes : List Char → List Char
  | [] => []
  | [_] => []
  | c :: next :: rest =>
    if c = '\\' ∧ next = '"' then dropEscapes (next :: rest)
    else c :: dropEscapes (next :: rest)

/-- The text that a string literal stands for.  The first and the last character are taken for the
quotes, whatever they are. -/
def unquote (literal : String) : String :=
  String.ofList (dropEscapes literal.toList.tail)

end Missive.Text
