import Missive.Text.Combining
import Missive.Text.Unprintable

/-!
# Escaped strings

The form in which a parse tree shows a string: between double quotes, with every character that
cannot be seen, or would join its neighbour, written as its code point.
-/

namespace Missive.Text

/-- The code point of a character in hexadecimal, between braces: `\u{200b}`. -/
def codePoint (c : Char) : String :=
  "\\u\x7b" ++ String.ofList (Nat.toDigits 16 c.toNat) ++ "\x7d"

/-- How one character of an escaped string is written. -/
def escapeChar (c : Char) : String :=
  if c = '\x00' then "\\0"
  else if c = '\t' then "\\t"
  else if c = '\n' then "\\n"
  else if c = '\r' then "\\r"
  else if c = '"' then "\\\""
  else if c = '\\' then "\\\\"
  else if isCombining c || isUnprintable c then codePoint c
  else c.toString

/-- A text as an escaped string. -/
def escaped (text : String) : String :=
  "\"" ++ String.join (text.toList.map escapeChar) ++ "\""

end Missive.Text
