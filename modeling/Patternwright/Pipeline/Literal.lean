import Patternwright.Text.Escape
import Patternwright.Value.Elements

/-!
# Literals

Values that a pattern is to match as they are: only texts can be.

## Main definitions

* `Pipeline.literal` — the pattern of a value
* `Pipeline.alternation` — the pattern of any of several values
-/

namespace Patternwright.Pipeline

/-- The pattern that matches a text and nothing else. -/
def literal : Value → Except Error String
  | .text s => .ok (Text.escape s)
  | v => .error (.literalNotText v.kindName)

/-- The patterns of several texts with bars between them. -/
def alternation (words : List Value) : Except Error String := do
  return "|".intercalate (← words.mapM literal)

end Patternwright.Pipeline
