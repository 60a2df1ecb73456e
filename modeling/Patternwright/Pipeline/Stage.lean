import Patternwright.Config.Basic
import Patternwright.Pipeline.Literal

/-!
# Stages

Without a shape, a pattern is built in stages. Each stage takes what the ones before it have built
and adds the part of the configuration that it is for. Some throw away what they are given: bounds
of the length, a list of allowed words and a custom pattern each take the place of all before them.

A custom pattern need not be a text; a stage that has to write behind or before it says so. A stage
also fails if it has to write an integer with too many digits, even if a later stage throws away
what it writes.

## Main definitions

* `Stage`, `Stage.all` — the stages in their order
* `Stage.run` — what a stage makes of a pattern
-/

namespace Patternwright

/-- A step in building a pattern. -/
inductive Stage where
  | characterClass
  | lookarounds
  | repetitions
  | lengthBounds
  | ends
  | words
  | custom
  deriving DecidableEq, Repr

namespace Stage

/-- All stages in their order. -/
def all : List Stage :=
  [characterClass, lookarounds, repetitions, lengthBounds, ends, words, custom]

/-- The name of a stage. -/
def name : Stage → String
  | characterClass => "character_class"
  | lookarounds => "lookarounds"
  | repetitions => "repetitions"
  | lengthBounds => "length_bounds"
  | ends => "prefix_suffix"
  | words => "word_constraints"
  | custom => "custom_override"

/-- The stage with a name. -/
def ofName? (name : String) : Option Stage := all.find? fun stage => stage.name == name

end Stage

namespace Pipeline

/-- The members that a switch adds to the character class. -/
def classParts : List (Scalar × String) := [
  (.digits, "\\d"),
  (.letters, "a-zA-Z"),
  (.whitespace, "\\s"),
  (.special, "!@#$%^&*()_+\\-=\\[\\]\x7b\x7d;:\"\\\\|,.<>?/~"),
  (.arabic, "\\u0600-\\u06FF\\u0750-\\u077F\\u08A0-\\u08FF\\uFB50-\\uFDFF\\uFE70-\\uFEFF")]

/-- What stands for any text on one line. -/
def anything : String := ".*"

/-- One or more characters of the switched-on kinds, or nothing if there are none. -/
def characterClass (config : Config) : String :=
  match classParts.filter fun part => config.isOn part.1 with
  | [] => ""
  | parts => "[" ++ String.join (parts.map (·.2)) ++ "]+"

/-- A text with a value behind it. -/
def appendTo (head : String) : Value → Except Error String
  | .text s => .ok (head ++ s)
  | v => .error (.appendedToText v.kindName)

/-- A value with a text behind it. -/
def withTail (tail : String) : Value → Except Error String
  | .text s => .ok (s ++ tail)
  | v => .error (.textAppended v.kindName)

/-- The condition that a text is still to come, or, with `?!` for `?=`, that it is not. -/
def lookahead (mark : String) (word : Value) : Except Error String := do
  return "(" ++ mark ++ anything ++ (← literal word) ++ ")"

/-- The conditions on what the text contains, before a pattern or before anything. -/
def lookarounds (config : Config) (pattern : Value) : Except Error String := do
  let present ← (config.list .mustContain).mapM (lookahead "?=")
  let absent ← (config.list .mustNotContain).mapM (lookahead "?!")
  appendTo (String.join (present ++ absent)) (if pattern.isTruthy then pattern else .text anything)

/-- A value as it stands in a pattern. -/
def display (v : Value) : Except Error String :=
  if v.isWritable then .ok v.shown else .error .unwritable

/-- A bound as it stands in a pattern, and what stands there without one. -/
def boundText (absent : String) : Value → Except Error String
  | .null => .ok absent
  | v => display v

/-- A count between two bounds; without a lower one it is from zero, without an upper one it is
open. -/
def countRange (low high : Value) : Except Error String := do
  return "\x7b" ++ (← boundText "0" low) ++ "," ++ (← boundText "" high) ++ "\x7d"

/-- How often a pattern is repeated. An exact count goes before bounds. -/
def repetitions (config : Config) (pattern : Value) : Except Error Value :=
  match config.scalar .exactRepetitions,
    config.scalar .minRepetitions, config.scalar .maxRepetitions with
  | .null, .null, .null => .ok pattern
  | .null, low, high => do
    return .text ("(?:" ++ (← display pattern) ++ ")" ++ (← countRange low high))
  | exact, _, _ => do
    return .text ("(?:" ++ (← display pattern) ++ ")\x7b" ++ (← display exact) ++ "\x7d")

/-- A bound of the length takes the place of a pattern. -/
def lengthBounds (config : Config) (pattern : Value) : Except Error Value :=
  match config.scalar .minLength, config.scalar .maxLength with
  | .null, .null => .ok pattern
  | low, high => do return .text ("^." ++ (← countRange low high) ++ "$")

/-- What the text begins with, before a pattern. -/
def opening (config : Config) (pattern : Value) : Except Error Value :=
  match config.scalar .opening with
  | .null => .ok pattern
  | word => do return .text (← appendTo (← literal word) pattern)

/-- What the text ends with, behind a pattern. -/
def closing (config : Config) (pattern : Value) : Except Error Value :=
  match config.scalar .closing with
  | .null => .ok pattern
  | word => do return .text (← withTail (← literal word) pattern)

/-- A list of allowed words takes the place of a pattern. -/
def allowedWords (config : Config) (pattern : Value) : Except Error Value :=
  match config.list .allowedWords with
  | [] => .ok pattern
  | words => do return .text ("(?:" ++ (← alternation words) ++ ")")

/-- The condition that none of the disallowed words is to come, before anything and a pattern. -/
def disallowedWords (config : Config) (pattern : Value) : Except Error Value :=
  match config.list .disallowedWords with
  | [] => .ok pattern
  | words => do
    return .text ("(?!.*(?:" ++ (← alternation words) ++ "))" ++ anything ++ (← display pattern))

/-- A custom pattern takes the place of a pattern. -/
def custom (config : Config) (pattern : Value) : Value :=
  if config.isOn .custom then config.scalar .custom else pattern

end Pipeline

/-- What a stage makes of the pattern that is there so far. -/
def Stage.run (stage : Stage) (config : Config) (pattern : Value) : Except Error Value :=
  match stage with
  | .characterClass => .ok (.text (Pipeline.characterClass config))
  | .lookarounds => do return .text (← Pipeline.lookarounds config pattern)
  | .repetitions => Pipeline.repetitions config pattern
  | .lengthBounds => Pipeline.lengthBounds config pattern
  | .ends => do Pipeline.closing config (← Pipeline.opening config pattern)
  | .words => do Pipeline.disallowedWords config (← Pipeline.allowedWords config pattern)
  | .custom => .ok (Pipeline.custom config pattern)

end Patternwright
