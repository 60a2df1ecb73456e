import Patternwright.Regex.Matcher
import Patternwright.Regex.Reader

/-!
# Patterns

A pattern is compiled from its text and the options its caller gives, and then searched for in
texts. Compilation adds two checks that look at the whole tree: a look-behind has one width, and a
template has no repetitions.

The search goes through a text from left to right and stops at the first place where the pattern
matches. If the pattern opens with a set in a group with an ASCII repertoire, the search passes over
every character that the same set does not hold under the pattern's own repertoire.

## Main definitions

* `Node.fault?` — the first fault of a tree
* `Regex.Pattern`, `Pattern.compile`
* `Pattern.search?`, `Pattern.accepts`
-/

namespace Patternwright.Regex

/-- The greatest width of a look-behind. -/
def lookbehindLimit : Nat := 4294967295

/-- The name of a repetition in a complaint about it. -/
def Greed.kindName : Greed → String
  | greedy => "MAX_REPEAT"
  | lazy => "MIN_REPEAT"
  | possessive => "POSSESSIVE_REPEAT"

namespace Node

/-- The first fault of a tree, from left to right and from outside in. -/
def fault? (isTemplate : Bool) : Node → Option Cause
  | empty | char _ | backref _ | anchor _ => none
  | seq first second | alt first second | conditional _ first second =>
    first.fault? isTemplate <|> second.fault? isTemplate
  | group _ body | scope _ _ body | atomic body | ahead _ body => body.fault? isTemplate
  | rep greed _ _ body =>
    if isTemplate then some (.repetitionInTemplate greed.kindName) else body.fault? isTemplate
  | behind _ width body =>
    if lookbehindLimit < width.least then some .lookbehindTooLong
    else if width.least ≠ width.greatest then some .lookbehindNotFixed
    else body.fault? isTemplate

/-- The set that a choice between single characters amounts to: literals and sets that are not
negated. -/
def choiceSet? : Node → Option (List SetItem)
  | char (.one code) => some [.one code]
  | char (.set false items) => some items
  | alt first second => return (← first.choiceSet?) ++ (← second.choiceSet?)
  | _ => none

/-- The test of one character that every way through a tree starts with. -/
def firstTest? : Node → Option CharTest
  | char test => some test
  | seq first _ => first.firstTest?
  | alt first second =>
    if first.firstTest? = second.firstTest? then first.firstTest? else none
  | _ => none

/-- A set that an opening set can be taken from: when case is ignored, not one with a cased literal
or with a range that is cased or leaves the basic plane. -/
def plainSet? (options : Options) (negated : Bool) (items : List SetItem) :
    Option (Bool × List SetItem) :=
  let folds : SetItem → Bool
    | .one code => options.isCased code
    | item => item.isCased options
  if options.ignoreCase && items.any folds then none else some (negated, items)

/-- The set that a tree opens with inside a group with an ASCII repertoire. `options` are those of
the place, and `isNarrow` says that such a group is around it. -/
def openingSet? (options : Options) (isNarrow : Bool) : Node → Option (Bool × List SetItem)
  | seq first _ => first.openingSet? options isNarrow
  | group _ body => body.openingSet? options isNarrow
  | scope on off body =>
    body.openingSet? (options.rescope on off)
      ((isNarrow || on.contains .ascii) && !on.contains .unicode)
  | char (.set negated items) => if isNarrow then plainSet? options negated items else none
  | alt first second =>
    if isNarrow then
      match (alt first second).firstTest? with
      | some (.set negated items) => plainSet? options negated items
      | some _ => none
      | none => (alt first second).choiceSet?.bind (plainSet? options false)
    else none
  | _ => none

end Node

/-- A compiled pattern. -/
structure Pattern where
  node : Node
  groupCount : Nat
  options : Options
  deriving DecidableEq, Repr

namespace Pattern

/-- Compiles the text of a pattern under the options of its caller. -/
def compile (text : String) (options : Options) : Except Fault Pattern := do
  let parsed ← Parsed.read text.toList
  match parsed.node.fault? (parsed.flags.contains .template) with
  | some cause => .error { cause }
  | none => return ⟨parsed.node, parsed.groupCount, options.rescope parsed.flags []⟩

/-- Whether the search tries the pattern before a character. -/
def triesAt (pattern : Pattern) (c? : Option Char) : Bool :=
  match pattern.node.openingSet? pattern.options false with
  | none => true
  | some (negated, items) =>
    c?.any fun c => items.any (SetItem.contains pattern.options c.toNat) != negated

/-- The match at a place, if the search tries it. -/
def matchAt? (pattern : Pattern) (before after : List Char) : Option State :=
  if pattern.triesAt after.head? then
    pattern.node.run pattern.options (.fresh before after pattern.groupCount) some
  else none

/-- The first match at a place or after it. -/
def searchFrom (pattern : Pattern) (before : List Char) : (after : List Char) → Option State
  | [] => pattern.matchAt? before []
  | c :: rest => pattern.matchAt? before (c :: rest) <|> pattern.searchFrom (c :: before) rest

/-- The first match in a text: the state at its end. -/
def search? (pattern : Pattern) (text : String) : Option State :=
  pattern.searchFrom [] text.toList

/-- The pattern matches somewhere in a text. -/
def accepts (pattern : Pattern) (text : String) : Bool := (pattern.search? text).isSome

end Pattern

end Patternwright.Regex
