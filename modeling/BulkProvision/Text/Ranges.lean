/-!
# Ranges of codes

A character class given as a list of ranges of code points.
-/

namespace BulkProvision

namespace Text

/-- Whether a code lies in one of the ranges, both ends included. -/
def inRanges (ranges : List (Nat × Nat)) (code : Nat) : Bool :=
  ranges.any fun r => r.1 ≤ code && code ≤ r.2

end Text

end BulkProvision
