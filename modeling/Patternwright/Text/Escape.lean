/-!
# Escaped text

A text is put into a pattern so that it stands for itself: every character with a meaning of its own
in patterns, and every blank of ASCII, gets a backslash.

## Main definitions

* `Text.isSpecial` — the characters that get a backslash
* `Text.escape` — the escaped form of a text
-/

namespace Patternwright.Text

/-- The characters that get a backslash. -/
def isSpecial (c : Char) : Bool :=
  "()[]\x7b\x7d?*+-|^$\\.&~# \t\n\r\x0b\x0c".toList.contains c

/-- The escaped form of one character. -/
def escapeChar (c : Char) : List Char := if isSpecial c then ['\\', c] else [c]

/-- The escaped form of a text. -/
def escape (text : String) : String := String.ofList (text.toList.flatMap escapeChar)

end Patternwright.Text
