/-!
# Sets of code points

A property of characters that a standard gives by enumeration is kept as closed ranges of code
points, ascending and apart from each other.
-/

namespace ComponentLookup.Text

/-- The code point lies in one of the ranges. -/
def inRanges (ranges : List (Nat × Nat)) (n : Nat) : Bool :=
  ranges.any fun r => r.1 ≤ n && n ≤ r.2

/-- The code point lies in a range of one of the tables. -/
def inTables (tables : List (List (Nat × Nat))) (n : Nat) : Bool :=
  tables.any fun ranges => inRanges ranges n

end ComponentLookup.Text
