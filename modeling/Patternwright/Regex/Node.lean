import Patternwright.Regex.CharTest

/-!
# Syntax trees of patterns

Sequences and alternatives are binary; a group that neither captures nor changes options leaves no
trace in the tree.

## Main definitions

* `Regex.Node` — the syntax tree
* `Regex.Width`, `Node.width` — how many characters a tree can match
* `Node.sequence`, `Node.alternatives`, `Node.anyOf` — trees for lists of parts
-/

namespace Patternwright.Regex

/-- The least and greatest count of characters that a tree can match. Counts stop at a ceiling,
which stands for "without bound". -/
structure Width where
  least : Nat
  greatest : Nat
  deriving DecidableEq, Repr

namespace Width

/-- Where counts stop. -/
def ceiling : Nat := 0x10000000000000000

/-- A width with both counts held at the ceiling. -/
def clamp (w : Width) : Width := ⟨min w.least ceiling, min w.greatest ceiling⟩

/-- Nothing at all. -/
def zero : Width := ⟨0, 0⟩

/-- One part after another. -/
def add (v w : Width) : Width := clamp ⟨v.least + w.least, v.greatest + w.greatest⟩

/-- One part or another. -/
def join (v w : Width) : Width := ⟨min v.least w.least, max v.greatest w.greatest⟩

/-- A part from `least` to `most` times; `none` is without bound. -/
def times (w : Width) (least : Nat) (most : Option Nat) : Width :=
  clamp ⟨w.least * least,
    match most with
    | some most => w.greatest * most
    | none => if w.greatest = 0 then 0 else ceiling⟩

end Width

/-- A place between characters that a pattern can ask for. -/
inductive Anchor where
  /-- `^`: the start of the text, or of a line. -/
  | lineStart
  /-- `$`: the end of the text, also before its final line break, or the end of a line. -/
  | lineEnd
  /-- The start of the text. -/
  | textStart
  /-- The end of the text. -/
  | textEnd
  /-- Between a word character and another or none. -/
  | wordEdge
  /-- Inside a word or outside all words. -/
  | notWordEdge
  deriving DecidableEq, Repr

/-- How a repetition chooses its count. -/
inductive Greed where
  /-- The most repetitions first, fewer if the rest then fails. -/
  | greedy
  /-- The fewest repetitions first. -/
  | lazy
  /-- The most repetitions and nothing else. -/
  | possessive
  deriving DecidableEq, Repr

/-- The syntax tree of a pattern. -/
inductive Node where
  /-- The empty pattern. -/
  | empty
  /-- One character. -/
  | char (test : CharTest)
  /-- One pattern after another. -/
  | seq (first second : Node)
  /-- One pattern or, failing that, another. -/
  | alt (first second : Node)
  /-- A group that captures what it matches under a number. -/
  | group (index : Nat) (body : Node)
  /-- A group that changes options for its content. -/
  | scope (on off : List Flag) (body : Node)
  /-- A repetition; `none` is without upper bound. -/
  | rep (greed : Greed) (least : Nat) (most : Option Nat) (body : Node)
  /-- A group that keeps its first way to match. -/
  | atomic (body : Node)
  /-- What follows matches, or does not. -/
  | ahead (negated : Bool) (body : Node)
  /-- What precedes matches, or does not; `width` is the width of the body. -/
  | behind (negated : Bool) (width : Width) (body : Node)
  /-- The text that a group has captured. -/
  | backref (index : Nat)
  /-- One pattern if a group has captured, else another. -/
  | conditional (index : Nat) (yes no : Node)
  /-- A place between characters. -/
  | anchor (anchor : Anchor)
  deriving DecidableEq, Repr

namespace Node

/-- Parts in a row. -/
def sequence : List Node → Node
  | [] => empty
  | [node] => node
  | node :: rest => seq node (sequence rest)

/-- Alternatives in order of preference; there is always a first one. -/
def alternatives (first : Node) : List Node → Node
  | [] => first
  | next :: rest => alt first (alternatives next rest)

/-- Any of some alternatives; without any, the empty pattern. -/
def anyOf : List Node → Node
  | [] => empty
  | first :: rest => alternatives first rest

/-- The width of a tree, given the widths of the groups it refers back to. -/
def width (groups : Nat → Width) : Node → Width
  | empty | ahead .. | behind .. | anchor _ => .zero
  | char _ => ⟨1, 1⟩
  | seq first second => (first.width groups).add (second.width groups)
  | alt first second => (first.width groups).join (second.width groups)
  | group _ body | scope _ _ body | atomic body => body.width groups
  | rep _ least most body => (body.width groups).times least most
  | backref index => groups index
  | conditional _ yes no => (yes.width groups).join (no.width groups)

end Node

end Patternwright.Regex
