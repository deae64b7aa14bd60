/-! Sets of characters given by ascending ranges of code points. -/

namespace Footprint.Text

/-- Inclusive ranges of code points. -/
abbrev CodePoints := Array (Nat × Nat)

/-- Whether a character lies in one of the ranges. -/
def CodePoints.contains (ranges : CodePoints) (char : Char) : Bool :=
  ranges.any fun range => range.1 ≤ char.toNat && char.toNat ≤ range.2

end Footprint.Text
