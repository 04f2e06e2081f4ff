/-!
# Sets of characters given by ranges

## Main definitions

* `Text.inRanges`.
-/

namespace Generics

namespace Text

/-- The code point of `ch` lies in one of the ranges, ends included. -/
def inRanges (ranges : List (Nat × Nat)) (ch : Char) : Bool :=
  ranges.any fun r => r.1 ≤ ch.toNat && ch.toNat ≤ r.2

end Text

end Generics
