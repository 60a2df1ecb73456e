import Patternwright.Regex.Bracket
import Patternwright.Regex.GroupHead
import Patternwright.Regex.Quantifier

/-!
# Reading patterns

The text of a pattern is read token by token. Each open group is a `Frame`, which holds the
alternatives and parts read in it so far; an opening parenthesis puts a new frame on top of the
others, a closing one makes a part of it in the frame below.

Groups may be nested as deep as memory allows.

A part remembers its role, because a quantifier repeats neither an anchor nor another repetition,
although it repeats a group that holds nothing else.

## Main definitions

* `Piece`, `Role`, `Frame` — what has been read
* `readPiece` — one part, quantifier or sign of the current frame
* `readFrames` — a pattern, frame by frame
* `Parsed`, `Parsed.read` — a pattern's text with everything that can be said of the text alone
-/

namespace Patternwright.Regex

/-- What a part is to a quantifier that follows it. -/
inductive Role where
  | atom
  | anchor
  | repetition
  deriving DecidableEq, Repr

/-- A part of a pattern. -/
structure Piece where
  node : Node
  role : Role := .atom
  deriving DecidableEq, Repr

/-- A group, or the pattern itself, while it is read. -/
structure Frame where
  opener : Opener := .plain
  /-- The count of characters left at the opening parenthesis. -/
  start : Nat := 0
  /-- White space and comments are skipped. -/
  verbose : Bool := false
  /-- The alternatives that have been read, last one first. -/
  branches : List Node := []
  /-- The parts of the current alternative, last one first. -/
  pieces : List Piece := []

namespace Frame

/-- The frame with one more part. -/
def push (frame : Frame) (node : Node) (role : Role := .atom) : Frame :=
  { frame with pieces := ⟨node, role⟩ :: frame.pieces }

/-- The current alternative. -/
def branch (frame : Frame) : Node := .sequence (frame.pieces.reverse.map Piece.node)

/-- The frame at the start of a further alternative. -/
def nextBranch (frame : Frame) : Frame :=
  { frame with branches := frame.branch :: frame.branches, pieces := [] }

/-- The alternatives of the frame, in the order of the text; the current one is the last. -/
def alternatives (frame : Frame) : List Node := frame.branches.reverse ++ [frame.branch]

/-- All that the frame holds. -/
def body (frame : Frame) : Node := .anyOf frame.alternatives

/-- The part that a group becomes at its end. -/
def close (frame : Frame) (ledger : Ledger) : Ledger × Node :=
  match frame.opener with
  | .capture index =>
    (ledger.closeGroup index (frame.body.width ledger.groupWidth), .group index frame.body)
  | .plain => (ledger, frame.body)
  | .scope on off => (ledger, .scope on off frame.body)
  | .atomic => (ledger, .atomic frame.body)
  | .ahead negated => (ledger, .ahead negated frame.body)
  | .behind negated outerLimit =>
    ({ ledger with behindLimit := outerLimit },
      .behind negated (frame.body.width ledger.groupWidth) frame.body)
  | .conditional index =>
    (ledger,
      match frame.branches with
      | [] => .conditional index frame.branch .empty
      | yes :: _ => .conditional index yes frame.branch)

/-- The frame of a condition that has both its alternatives. -/
def isFullCondition (frame : Frame) : Bool :=
  match frame.opener with
  | .conditional _ => !frame.branches.isEmpty
  | _ => false

/-- The last part repeated. The quantifier begins one character before `behind` and ends before
`rest`. -/
def repeatLast (frame : Frame) (bounds : Bounds) (behind rest : List Token) :
    Reading (Frame × List Token) := do
  match frame.pieces with
  | [] => stop .nothingToRepeat (left behind + 1)
  | ⟨_, .anchor⟩ :: _ => stop .nothingToRepeat (left behind + 1)
  | ⟨_, .repetition⟩ :: _ => stop .multipleRepeat (left behind + 1)
  | ⟨node, .atom⟩ :: earlier =>
    let (greed, rest) ← readGreed rest
    let repeated : Piece := ⟨.rep greed bounds.least bounds.most node, .repetition⟩
    return ({ frame with pieces := repeated :: earlier }, rest)

end Frame

/-- The place that an escape asks for. -/
def anchorEscape? : Char → Option Anchor
  | 'A' => some .textStart
  | 'b' => some .wordEdge
  | 'B' => some .notWordEdge
  | 'Z' => some .textEnd
  | _ => none

/-- An escape that starts with a digit other than zero: three octal digits are a character code,
else one or two digits are a group number. -/
def readNumberEscape (ledger : Ledger) (digit : Char) (rest : List Token) :
    Reading (Node × List Token) := do
  let (more, afterTwo) := takeChars Char.isDigit 1 rest
  settle afterTwo
  let (last, afterThree) := takeChars Digit.isOctal 1 afterTwo
  if more.length = 1 ∧ last.length = 1 ∧ (digit :: more).all Digit.isOctal then
    settle afterThree
    let (code, rest) ← octalCode (digit :: more ++ last) afterThree
    return (.char (.one code), rest)
  else
    let index := Digit.numberOf 10 (digit :: more)
    let length := more.length + 2
    if index < ledger.groups.length then
      return (← ledger.reference index length afterTwo, afterTwo)
    else stop (.invalidGroupReference index) (left afterTwo + length - 1)

/-- An escape outside bracketed sets. -/
def readEscape (ledger : Ledger) (letter : Char) (rest : List Token) :
    Reading (Piece × List Token) := do
  if let some anchor := anchorEscape? letter then return (⟨.anchor anchor, .anchor⟩, rest)
  if let some (negated, category) := categoryEscape? letter then
    return (⟨.char (.set false [.named negated category]), .atom⟩, rest)
  if let some code := controlEscape? letter then return (⟨.char (.one code), .atom⟩, rest)
  if letter != '0' && letter.isDigit then
    let (node, rest) ← readNumberEscape ledger letter rest
    return (⟨node, .atom⟩, rest)
  let (code, rest) ←
    if let some reading := readCharEscape? letter rest then reading
    else if letter = '0' then do
      let (digits, rest) := takeChars Digit.isOctal 2 rest
      settle rest
      octalCode (letter :: digits) rest
    else readPlainEscape letter rest
  return (⟨.char (.one code), .atom⟩, rest)

/-- A comment in a verbose pattern, up to the end of its line. -/
def skipLine : List Token → Reading (List Token)
  | [] => .ok []
  | token :: rest => do
    settle rest
    if token = .plain '\n' then return rest else skipLine rest

/-- White space that a verbose pattern may hold. -/
def isLayout (c : Char) : Bool := c == ' ' || (0x09 ≤ c.toNat && c.toNat ≤ 0x0D)

/-- One part of the current frame, or a quantifier of its last part: everything but alternatives and
groups. `rest` follows the character `c`. -/
def readPlain (frame : Frame) (c : Char) (rest : List Token) : Reading (Frame × List Token) := do
  match c with
  | '[' =>
    let (test, rest) ← readSet rest
    return (frame.push (.char test), rest)
  | '.' => return (frame.push (.char .any), rest)
  | '^' => return (frame.push (.anchor .lineStart) .anchor, rest)
  | '$' => return (frame.push (.anchor .lineEnd) .anchor, rest)
  | '?' => frame.repeatLast ⟨0, some 1⟩ rest rest
  | '*' => frame.repeatLast ⟨0, none⟩ rest rest
  | '+' => frame.repeatLast ⟨1, none⟩ rest rest
  | '{' =>
    match ← readBounds? rest with
    | some (bounds, after) => frame.repeatLast bounds rest after
    | none => return (frame.push (.char (.one c.toNat)), rest)
  | _ => return (frame.push (.char (.one c.toNat)), rest)

/-- One part of the current frame: everything but alternatives and groups. -/
def readPiece (ledger : Ledger) (frame : Frame) (token : Token) (rest : List Token) :
    Reading (Frame × List Token) := do
  match token with
  | .plain c =>
    if frame.verbose && isLayout c then return (frame, rest)
    if frame.verbose && c = '#' then return (frame, ← skipLine rest)
    readPlain frame c rest
  | .escaped c =>
    let (piece, rest) ← readEscape ledger c rest
    return ({ frame with pieces := piece :: frame.pieces }, rest)
  | .dangling => stop .danglingEscape 1

/-- Options for the whole pattern, which have to stand before everything else. -/
def Frame.switchOn (frame : Frame) (ledger : Ledger) (on : List Flag) (isOutermost : Bool)
    (start : Nat) : Reading (Ledger × Frame) :=
  if isOutermost && frame.branches.isEmpty && frame.pieces.isEmpty then
    let flags := ledger.flags ++ on
    .ok ({ ledger with flags }, { frame with verbose := flags.contains .verbose })
  else stop .globalFlagsNotAtStart start

/-- Reads on in the top frame, with the frames of the groups around it in `outer`, innermost first.
Reading ends at the end of the tokens or before a parenthesis that closes no group, with the
outermost frame. -/
def readFrames (ledger : Ledger) (frame : Frame) (outer : List Frame) :
    List Token → Reading (Ledger × Frame × List Token)
  | [] =>
    if outer.isEmpty then .ok (ledger, frame, [])
    else stop .unterminatedGroup frame.start
  | token :: rest =>
    match token with
    | .plain '|' => do
      if frame.isFullCondition then stop .manyConditionalBranches (left (token :: rest))
      settle rest
      readFrames ledger frame.nextBranch outer rest
    | .plain ')' =>
      match outer with
      | [] => .ok (ledger, frame, token :: rest)
      | below :: outer => do
        settle rest
        let (ledger, node) := frame.close ledger
        readFrames ledger (below.push node) outer rest
    | .plain '(' => do
      settle rest
      let start := left rest + 1
      let (ledger, head, after) ← readGroupHead ledger rest
      match head with
      | .comment => readFrames ledger frame outer (resume rest after)
      | .reference node => readFrames ledger (frame.push node) outer (resume rest after)
      | .globalFlags on => do
        let (ledger, frame) ← frame.switchOn ledger on outer.isEmpty start
        readFrames ledger frame outer (resume rest after)
      | .opens opener =>
        let verbose := match opener with
          | .scope on off =>
            (frame.verbose || on.contains .verbose) && !off.contains .verbose
          | _ => frame.verbose
        readFrames ledger { opener, start, verbose } (frame :: outer) (resume rest after)
    | token => do
      settle rest
      let (frame, after) ← readPiece ledger frame token rest
      readFrames ledger frame outer (resume rest after)
termination_by tokens => tokens.length
decreasing_by all_goals grind [length_resume_le]

/-- A pattern's syntax tree, with the options it switches on for itself and the count of its
groups, the whole pattern included. -/
structure Parsed where
  node : Node
  flags : List Flag
  groupCount : Nat
  deriving DecidableEq, Repr

/-- Reads a pattern. A pattern has all scripts as its repertoire, so it cannot ask for ASCII as a
whole; and every group number that a condition asks for has to exist in the end. -/
def Parsed.read (text : List Char) : Reading Parsed := do
  let tokens := tokenize text
  settle tokens
  let (ledger, frame, rest) ← readFrames {} {} [] tokens
  if ledger.flags.contains .ascii then .error { cause := .repertoireConflict }
  if !rest.isEmpty then stop .unbalancedParenthesis (left rest)
  match ledger.conditions.find? fun condition => ledger.groups.length ≤ condition.1 with
  | some (index, place) => stop (.invalidGroupReference index) place
  | none => return ⟨frame.body, ledger.flags, ledger.groups.length⟩

end Patternwright.Regex
