/-!
# Sets of characters as ranges of code points

The tables of character properties in this folder are lists of inclusive ranges.  Membership is the
plain disjunction over the ranges, so a fact about one character is a finite check.
-/

namespace Missive.Text

/-- A set of characters, given by inclusive ranges of code points. -/
structure CodeRanges where
  /-- First and last code point of each range, in ascending order. -/
  ranges : List (Nat × Nat)

/-- Whether a character lies in one of the ranges. -/
def CodeRanges.contains (set : CodeRanges) (c : Char) : Bool :=
  set.ranges.any fun range => range.1 ≤ c.toNat && c.toNat ≤ range.2

end Missive.Text
