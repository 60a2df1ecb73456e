import Patternwright.Unicode.RangeSet

/-!
# White space

The characters that count as white space: the bidirectional classes `WS`, `B` and `S` together with
the category `Zs`. In ASCII these are the six usual ones and the four information separators
U+001C to U+001F.

## Main definitions

* `isBlank` — the character is white space
-/

namespace Patternwright.Unicode

/-- All white space characters. -/
def blankRanges : RangeSet := [
    (0x9, 0xD), (0x1C, 0x20), (0x85, 0x85), (0xA0, 0xA0), (0x1680, 0x1680), (0x2000, 0x200A),
    (0x2028, 0x2029), (0x202F, 0x202F), (0x205F, 0x205F), (0x3000, 0x3000)]

/-- White space, including the information separators. -/
def isBlank (code : Nat) : Bool := blankRanges.contains code

end Patternwright.Unicode
