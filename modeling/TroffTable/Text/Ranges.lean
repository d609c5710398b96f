/-! Sets of characters given by sorted, disjoint ranges of code points. -/

namespace TroffTable

/-- Whether `n` lies in one of the ranges. They are sorted, so the search ends at
the first range that begins above `n`. -/
def inRanges : List (Nat × Nat) → Nat → Bool
  | [], _ => false
  | (first, last) :: ranges, n => first ≤ n && (n ≤ last || inRanges ranges n)

end TroffTable
