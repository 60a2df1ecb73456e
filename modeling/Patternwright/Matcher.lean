import Patternwright.Pipeline.Build
import Patternwright.Regex.Pattern

/-!
# Matchers

A matcher is the compiled pattern of a configuration, together with the values that its options had
there. A text matches if the pattern is found somewhere in it.

## Main definitions

* `Matcher`, `Matcher.ofConfig` — matchers, and the one of a configuration
* `Matcher.accepts` — whether a text matches
* `Matcher.flagSum` — the options as one number
* `Matcher.toValue`, `Matcher.isSame` — the document of a matcher, and equality
-/

namespace Patternwright

/-- The options of a matcher, as its configuration has them. -/
structure MatchOptions where
  caseInsensitive : Value
  multiLine : Value
  dotAll : Value

namespace MatchOptions

/-- The options of a configuration. -/
def ofConfig (config : Config) : MatchOptions :=
  ⟨config.scalar .caseInsensitive, config.scalar .multiLine, config.scalar .dotAll⟩

/-- The options that are on. -/
def toOptions (options : MatchOptions) : Regex.Options where
  ignoreCase := options.caseInsensitive.isTruthy
  multiLine := options.multiLine.isTruthy
  dotAll := options.dotAll.isTruthy

/-- The options as one number: a power of two for each that is on, and one for the repertoire of all
scripts, which every matcher has. -/
def flagSum (options : MatchOptions) : Nat :=
  32 + (if options.caseInsensitive.isTruthy then 2 else 0) +
    (if options.multiLine.isTruthy then 8 else 0) + (if options.dotAll.isTruthy then 16 else 0)

/-- The names of the options with their values. -/
def named (options : MatchOptions) : List (String × Value) := [
  ("case_insensitive", options.caseInsensitive), ("multi_line", options.multiLine),
  ("dot_all", options.dotAll), ("unicode", .bool true)]

end MatchOptions

/-- A compiled pattern with its text, options and shape. -/
structure Matcher where
  text : String
  pattern : Regex.Pattern
  options : MatchOptions
  shape? : Option Shape

namespace Matcher

/-- The matcher of a configuration. -/
def ofConfig (config : Config) : Except Error Matcher := do
  let (shape?, text) ← Pipeline.build config
  let options := MatchOptions.ofConfig config
  match Regex.Pattern.compile text options.toOptions with
  | .ok pattern => return ⟨text, pattern, options, shape?⟩
  | .error fault => .error (.pattern text fault)

/-- A text matches. -/
def accepts (matcher : Matcher) (text : String) : Bool := matcher.pattern.accepts text

/-- The name of a shape, or nothing, as a value. -/
def shapeValue (shape? : Option Shape) : Value :=
  match shape? with
  | some shape => .text shape.name
  | none => .null

/-- The document of a matcher. -/
def toValue (matcher : Matcher) : Value :=
  .object (("pattern", .text matcher.text) :: ("shape", shapeValue matcher.shape?) ::
    matcher.options.named)

/-- Two matchers have the same text, options and shape. -/
def isSame (matcher other : Matcher) : Bool := matcher.toValue.isSame other.toValue

end Matcher

end Patternwright
