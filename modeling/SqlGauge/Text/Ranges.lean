/-!
# Sets of code points

A property of characters that is data of the Unicode standard is kept as the ranges of its code
points.
-/

namespace SqlGauge.Text

/-- Ranges of code points, each given by its first and its last one. -/
abbrev Ranges := Array (Nat × Nat)

/-- Whether some range holds the code point. -/
def Ranges.contains (ranges : Ranges) (code : Nat) : Bool :=
  ranges.any fun range => range.1 ≤ code && code ≤ range.2

end SqlGauge.Text
