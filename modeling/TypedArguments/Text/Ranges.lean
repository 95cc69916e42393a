/-!
# Character ranges

A set of characters as a list of ranges of code points, each with both its ends.
-/

namespace TypedArguments.Text

/-- The character lies in one of the ranges. -/
def inRanges (ranges : List (Nat × Nat)) (c : Char) : Bool :=
  ranges.any fun r => r.1 ≤ c.toNat && c.toNat ≤ r.2

/-- The ranges follow each other with gaps between them. -/
def separated (ranges : List (Nat × Nat)) : Bool :=
  (ranges.zip ranges.tail).all fun p => p.1.2 + 1 < p.2.1

end TypedArguments.Text
