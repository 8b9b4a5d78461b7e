import Missive.Text.CodeRanges

/-!
# Blank characters

The characters that separate tokens and mean nothing else: those with the Unicode property
`White_Space`.
-/

namespace Missive.Text

/-- The characters with the Unicode property `White_Space`. -/
def blanks : CodeRanges where
  ranges :=
    [(0x09, 0x0D), (0x20, 0x20), (0x85, 0x85), (0xA0, 0xA0), (0x1680, 0x1680), (0x2000, 0x200A),
     (0x2028, 0x2029), (0x202F, 0x202F), (0x205F, 0x205F), (0x3000, 0x3000)]

/-- Whether a character may stand between two tokens without being part of one. -/
def isBlank (c : Char) : Bool :=
  blanks.contains c

end Missive.Text
