/-!
# Sets of code points

A property of characters is given by the ranges of code points that have it. Ranges are closed, do
not touch and stand in increasing order, so a look-up stops at the first range above the code point.

## Main definitions

* `RangeSet` — the ranges of a property
* `RangeSet.contains` — membership
-/

namespace Patternwright.Unicode

/-- Closed ranges of code points, in increasing order. -/
abbrev RangeSet := List (Nat × Nat)

/-- Whether some range holds the code point. -/
def RangeSet.contains : RangeSet → Nat → Bool
  | [], _ => false
  | (first, last) :: rest, code =>
    if code < first then false else code ≤ last || RangeSet.contains rest code

end Patternwright.Unicode
