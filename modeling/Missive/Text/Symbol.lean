/-!
# The characters names, numbers and verbs are made of

Names and verbs are ASCII.  A *verb symbol* is a punctuation character that can begin a verb; a
verb goes on with verb symbols, letters and digits.
-/

namespace Missive.Text

/-- An ASCII letter. -/
def isLetter (c : Char) : Bool :=
  ('a' ≤ c && c ≤ 'z') || ('A' ≤ c && c ≤ 'Z')

/-- An ASCII digit. -/
def isDigit (c : Char) : Bool :=
  '0' ≤ c && c ≤ '9'

/-- An ASCII letter or digit: what a name consists of after its first letter. -/
def isLetterOrDigit (c : Char) : Bool :=
  isLetter c || isDigit c

/-- The punctuation characters of verbs, in no particular order. -/
def verbSymbols : List Char :=
  ['<', '>', '.', '*', '/', '+', '!', '-', '_', '?', '$', '%', '&', '=']

/-- A character with which a verb begins, letters aside. -/
def isVerbSymbol (c : Char) : Bool :=
  verbSymbols.contains c

/-- A character with which a verb begins; a verb that begins with a letter is a word such as
`and`. -/
def isVerbStart (c : Char) : Bool :=
  isVerbSymbol c || isLetter c

/-- A character that continues a verb. -/
def isVerbPart (c : Char) : Bool :=
  isVerbStart c || isDigit c

end Missive.Text
