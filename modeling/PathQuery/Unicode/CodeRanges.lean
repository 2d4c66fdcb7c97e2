/-!
# Sets of code points

A set of code points is kept as closed ranges, and as ranges of which every
other code point belongs to the set, as is common where upper and lower case
alternate.
-/

namespace PathQuery.Unicode

/-- A set of code points as ranges, with both ends included. -/
structure CodeRanges where
  solid : List (Nat × Nat)
  alternating : List (Nat × Nat) := []

/-- The ranges of a set; every other code point of an alternating range is a range
of its own. -/
def CodeRanges.all (set : CodeRanges) : List (Nat × Nat) :=
  set.solid ++ set.alternating.flatMap fun range =>
    (List.range ((range.2 - range.1) / 2 + 1)).map fun i =>
      (range.1 + 2 * i, range.1 + 2 * i)

/-- A set of code points that goes by some names. -/
structure NamedRanges where
  names : List String
  ranges : List (Nat × Nat)

end PathQuery.Unicode
