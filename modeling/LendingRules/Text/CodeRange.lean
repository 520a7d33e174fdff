namespace LendingRules

/-!
# Ranges of code points

Character classes that go beyond ASCII are given by tables of ranges. The
tables are those of Unicode 17.
-/

/-- A range of code points, both ends included. -/
structure CodeRange where
  first : Nat
  last : Nat
  deriving Repr, DecidableEq

namespace CodeRange

/-- Whether a character lies in the range. -/
def contains (range : CodeRange) (character : Char) : Bool :=
  range.first ≤ character.toNat && character.toNat ≤ range.last

/-- Whether a character lies in one of the ranges. -/
def anyContains (ranges : List CodeRange) (character : Char) : Bool :=
  ranges.any fun range => range.contains character

end CodeRange

end LendingRules
