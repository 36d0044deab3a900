/-!
# Character classes as ranges

A character class of Unicode is a table of code point ranges, first and last code point included,
in ascending order.
-/

namespace WaterRegistry

/-- Code point ranges, first and last code point included. -/
abbrev CharRanges := List (Nat × Nat)

/-- Whether a character lies in one of the ranges. -/
def CharRanges.contains (ranges : CharRanges) (c : Char) : Bool :=
  ranges.any fun range => range.1 ≤ c.toNat && c.toNat ≤ range.2

end WaterRegistry
