import Patternwright.Matcher

/-!
# Explanations

An explanation tells how the pattern of a configuration comes about: from a shape or in stages, what
the pattern is, which options it has, and what each stage has built. Nothing is compiled for it.

## Main definitions

* `Explanation`, `Explanation.ofConfig` — explanations, and the one of a configuration
* `Explanation.toValue`, `Explanation.toText` — as a document and as lines of text
-/

namespace Patternwright

/-- How the pattern of a configuration comes about. -/
structure Explanation where
  shape? : Option Shape
  pattern : String
  options : MatchOptions
  stages : List (Stage × Value)

namespace Explanation

/-- The explanation of a configuration. -/
def ofConfig (config : Config) : Except Error Explanation := do
  let (shape?, pattern) ← Pipeline.build config
  let stages ← if shape?.isSome then pure [] else Pipeline.trace config
  return ⟨shape?, pattern, MatchOptions.ofConfig config, stages⟩

/-- The name of the way that the pattern has come about. -/
def branch (explanation : Explanation) : String :=
  if explanation.shape?.isSome then "shape" else "pipeline"

/-- An explanation as a document. -/
def toValue (explanation : Explanation) : Value :=
  .object [
    ("branch", .text explanation.branch),
    ("shape", Matcher.shapeValue explanation.shape?),
    ("pattern", .text explanation.pattern),
    ("options", .object explanation.options.named),
    ("stages", .list (explanation.stages.map fun (stage, output) =>
      .object [("stage", .text stage.name), ("output", output)]))]

/-- The width of the column of stage names. -/
def nameWidth : Nat := 18

/-- The line of a stage. An explanation is made of a pattern that has been built, so the output is a
text, which is shown as it is. -/
def stageLine (stage : Stage) (output : Value) : String :=
  let padding := String.ofList (List.replicate (nameWidth - stage.name.length) ' ')
  "  " ++ stage.name ++ padding ++ " " ++ (if output.isTruthy then output.shown else "(empty)")

/-- An explanation as lines of text. -/
def toText (explanation : Explanation) : String :=
  let branch :=
    match explanation.shape? with
    | some shape => "shape " ++ shape.name
    | none => "pipeline"
  let enabled := explanation.options.named.filter fun (_, value) => value.isTruthy
  "\n".intercalate (
    ("BRANCH: " ++ branch) :: ("PATTERN: " ++ explanation.pattern) ::
      ("OPTIONS: " ++ ", ".intercalate (enabled.map (·.1))) ::
      explanation.stages.map fun (stage, output) => stageLine stage output)

end Explanation

end Patternwright
