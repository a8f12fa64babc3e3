/-! # Sets of code points

A set of characters is a table of ranges. Membership is an inspection of the ranges, so a fact
about a particular character is decided by computation.
-/

namespace FilterScript.Text

/-- A set of code points as ascending, disjoint ranges, each by its first and last member. -/
structure CodePoints where
  ranges : List (Nat × Nat)

namespace CodePoints

/-- The range that a code point lies in. -/
def rangeOf? (points : CodePoints) (code : Nat) : Option (Nat × Nat) :=
  points.ranges.find? fun range => range.1 ≤ code && code ≤ range.2

/-- Membership in one of the ranges. -/
def contains (points : CodePoints) (code : Nat) : Bool :=
  points.ranges.any fun range => range.1 ≤ code && code ≤ range.2

/-- A code point belongs to the set if one of the ranges holds it. -/
theorem contains_iff {points : CodePoints} {code : Nat} :
    points.contains code = true ↔
      ∃ range ∈ points.ranges, range.1 ≤ code ∧ code ≤ range.2 := by
  simp [contains]

end CodePoints

end FilterScript.Text
