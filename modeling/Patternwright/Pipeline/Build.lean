import Patternwright.Pipeline.Stage
import Patternwright.Shape.Pattern

/-!
# Building a pattern

The pattern of a configuration is that of its shape, or, without a shape, what the stages build,
tied to both ends of the text.

## Main definitions

* `Pipeline.outputs` — what each stage builds, up to a stage that fails
* `Pipeline.run` — what the last stage builds
* `Pipeline.trace` — what each stage builds
* `Pipeline.build` — the shape and the pattern of a configuration
-/

namespace Patternwright.Pipeline

/-- What stages build on a pattern, each with its output, up to one that fails. -/
def outputs (config : Config) : List Stage → Value → List (Stage × Value)
  | [], _ => []
  | stage :: stages, pattern =>
    match stage.run config pattern with
    | .ok output => (stage, output) :: outputs config stages output
    | .error _ => []

/-- What stages build on a pattern in the end. -/
def runStages (config : Config) : List Stage → Value → Except Error Value
  | [], pattern => .ok pattern
  | stage :: stages, pattern => do runStages config stages (← stage.run config pattern)

/-- What the stages build for a configuration. -/
def run (config : Config) : Except Error Value := runStages config Stage.all (.text "")

/-- The output of every stage for a configuration. -/
def trace (config : Config) : Except Error (List (Stage × Value)) := do
  let _ ← run config
  return outputs config Stage.all (.text "")

/-- The shape of a configuration, if any, and its pattern. -/
def build (config : Config) : Except Error (Option Shape × String) := do
  match Shape.select? config with
  | some shape => return (some shape, ← shape.pattern config)
  | none => return (none, (← appendTo "^" (← run config)) ++ "$")

end Patternwright.Pipeline
