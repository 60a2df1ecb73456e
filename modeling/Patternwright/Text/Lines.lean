import Patternwright.Unicode.Blank

/-!
# Lines

A line of a file ends with a line feed, a carriage return, or both in this order; read as text, each
of these is one line feed.

## Main definitions

* `Text.unifyBreaks` — every line ends with a line feed
* `Text.lines` — the lines of a text, without their ends
* `Text.samples` — the lines that are not blank
-/

namespace Patternwright.Text

/-- The text with every line end written as a line feed. -/
def unifyBreaks : List Char → List Char
  | [] => []
  | '\r' :: '\n' :: rest => '\n' :: unifyBreaks rest
  | '\r' :: rest => '\n' :: unifyBreaks rest
  | c :: rest => c :: unifyBreaks rest

/-- The lines of a text whose lines end with line feeds; the end of the last one may be missing. -/
def lines : List Char → List (List Char)
  | [] => []
  | '\n' :: rest => [] :: lines rest
  | c :: rest =>
    match lines rest with
    | [] => [[c]]
    | line :: others => (c :: line) :: others

/-- A line without a character that shows. -/
def isBlankLine (line : List Char) : Bool := line.all fun c => Unicode.isBlank c.toNat

/-- The lines of a text that are not blank. -/
def samples (text : List Char) : List String :=
  ((lines (unifyBreaks text)).filter fun line => !isBlankLine line).map String.ofList

end Patternwright.Text
