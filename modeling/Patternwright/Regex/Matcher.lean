import Patternwright.Regex.State

/-!
# Matching

A tree is tried at a place with a continuation for what comes after it, and answers with the first
state, in order of preference, that the continuation accepts. Failure of the continuation makes the
tree try its next way to match; what the groups have captured is part of the state and so falls
back with it.

A repetition without progress is not repeated: after its least count, an iteration that ends where
it began is the last one.

## Main definitions

* `Anchor.holds` — whether a place is of the kind that an anchor asks for
* `Regex.Step`, `greedily`, `lazily`, `possessively` — repetition
* `Node.run` — matching at a place
-/

namespace Patternwright.Regex

/-- The character is a word character under the options. -/
def isWordChar (options : Options) (c? : Option Char) : Bool :=
  c?.any fun c => Category.word.contains options c.toNat

/-- Whether a place is of the kind that an anchor asks for. The empty text has no edge of a word and
no place that is none. -/
def Anchor.holds (options : Options) (s : State) : Anchor → Bool
  | lineStart => s.before.isEmpty || (options.multiLine && s.before.head? == some '\n')
  | lineEnd =>
    s.after.isEmpty || s.after == ['\n'] || (options.multiLine && s.after.head? == some '\n')
  | textStart => s.before.isEmpty
  | textEnd => s.after.isEmpty
  | wordEdge => isWordChar options s.before.head? != isWordChar options s.after.head?
  | notWordEdge =>
    !(s.before.isEmpty && s.after.isEmpty) &&
      isWordChar options s.before.head? == isWordChar options s.after.head?

/-- What is to be matched after a tree: the state in which all of it has matched, if any. -/
abbrev Continuation := State → Option State

/-- A way to match from a state, given what is to be matched after it. -/
abbrev Step := State → Continuation → Option State

/-- The step exactly `count` times. -/
def exactly (step : Step) : (count : Nat) → Step
  | 0, s, next => next s
  | count + 1, s, next => step s fun s => exactly step count s next

/-- The step at most `most` times, more often rather than less. -/
def greedily (step : Step) (most : Option Nat) (s : State) (next : Continuation) : Option State :=
  if most = some 0 then next s
  else
    (step s fun t =>
      if t.left < s.left then greedily step (most.map (· - 1)) t next
      else next t) <|> next s
termination_by s.left

/-- The step at most `most` times, less often rather than more. -/
def lazily (step : Step) (most : Option Nat) (s : State) (next : Continuation) : Option State :=
  next s <|>
    if most = some 0 then none
    else step s fun t =>
      if t.left < s.left then lazily step (most.map (· - 1)) t next
      else next t
termination_by s.left

/-- The state after as many steps as possible, at most `most`, each in its first way to match. -/
def possessively (step : Step) (most : Option Nat) (s : State) : State :=
  if most = some 0 then s
  else
    match step s some with
    | none => s
    | some t =>
      if t.left < s.left then possessively step (most.map (· - 1)) t else t
termination_by s.left

/-- The first way for a step to match, `count` times in a row. -/
def firstTimes (step : Step) : (count : Nat) → State → Option State
  | 0, s => some s
  | count + 1, s => (step s some).bind (firstTimes step count)

/-- Whether two texts are equal, up to folding when case is ignored. -/
def sameText (options : Options) (s t : List Char) : Bool :=
  if options.ignoreCase then
    s.map (fun c => options.fold c.toNat) == t.map (fun c => options.fold c.toNat)
  else s == t

namespace Node

/-- Matches a tree at a place, and then what comes after it. -/
def run : Node → Options → Step
  | empty, _ => fun s next => next s
  | char test, options => fun s next =>
    match s.after with
    | [] => none
    | c :: _ => if test.accepts options c then next (s.advance 1) else none
  | seq first second, options => fun s next =>
    first.run options s fun s => second.run options s next
  | alt first second, options => fun s next =>
    first.run options s next <|> second.run options s next
  | group index body, options => fun s next =>
    body.run options (s.enter index) fun s => next (s.leave index)
  | scope on off body, options => body.run (options.rescope on off)
  | rep greed least most body, options => fun s next =>
    let step := body.run options
    let beyond := most.map (· - least)
    match greed with
    | .greedy => exactly step least s fun s => greedily step beyond s next
    | .lazy => exactly step least s fun s => lazily step beyond s next
    | .possessive =>
      (firstTimes step least s).bind fun s => next (possessively step beyond s)
  | atomic body, options => fun s next => (body.run options s some).bind next
  | ahead negated body, options => fun s next =>
    match body.run options s some with
    | some t => if negated then none else next { s with groups := t.groups }
    | none => if negated then next s else none
  | behind negated width body, options => fun s next =>
    let found? :=
      if s.canRetreat width.least then body.run options (s.retreat width.least) some else none
    match found? with
    | some t => if negated then none else next { s with groups := t.groups }
    | none => if negated then next s else none
  | backref index, options => fun s next =>
    match s.captured? index with
    | none => none
    | some text =>
      if sameText options text (s.after.take text.length) then next (s.advance text.length)
      else none
  | conditional index yes no, options => fun s next =>
    if (s.captured? index).isSome then yes.run options s next else no.run options s next
  | anchor place, options => fun s next => if place.holds options s then next s else none

end Node

end Patternwright.Regex
