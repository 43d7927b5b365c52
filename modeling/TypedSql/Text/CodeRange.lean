/-!
# Ranges of characters

Classes of characters are written as lists of closed ranges of code points.
-/

namespace TypedSql.Text

/-- Closed ranges of code points, first and last. -/
abbrev CodeRanges :=
  List (Nat × Nat)

/-- Whether a character lies in one of the ranges. -/
def inRanges (ranges : CodeRanges) (c : Char) : Bool :=
  ranges.any fun range => range.1 ≤ c.toNat && c.toNat ≤ range.2

end TypedSql.Text
