/-!
Sets of characters given by ranges of code points.
-/
namespace ReviewDesk.Text

/-- Whether a code point lies in one of the ranges, both ends included. -/
def inRanges (ranges : Array (Nat × Nat)) (code : Nat) : Bool :=
  ranges.any fun r => r.1 ≤ code && code ≤ r.2

end ReviewDesk.Text
