import Patternwright.Matcher

/-!
# Journal

What a command does on its way to a pattern can be followed in a journal, an event a line. Where an
error came from in the program is not part of it.

## Main definitions

* `Event`, `Event.line` — the events and their lines
* `Journal.ofBuild`, `Journal.ofCompile`, `Journal.ofExplanation` — the events of an operation
-/

namespace Patternwright

/-- Something that happens on the way to a pattern. -/
inductive Event where
  | stageRun (stage : Stage) (output : Value)
  | shapeUsed (shape : Shape)
  | brandSkipped (entry : Value)
  | compiled (pattern : String) (flagSum : Nat)
  | commandFailed (command : String)

/-- The part of the program that an event belongs to, and what it says. -/
def Event.entry : Event → String × String
  | stageRun stage output =>
    ("engine.stages", "stage " ++ stage.name ++ " -> " ++ output.quoted)
  | shapeUsed shape => ("engine.compiler", "using named shape " ++ shape.name)
  | brandSkipped entry =>
    ("engine.shapes", "Skipping unknown credit card brand " ++ entry.quoted)
  | compiled pattern flagSum =>
    ("engine.compiler",
      "compiled pattern " ++ Text.quoted pattern ++ " (flags=" ++ toString flagSum ++ ")")
  | commandFailed command => ("cli", "command " ++ command ++ " failed")

/-- The line of an event. -/
def Event.line (event : Event) : String :=
  "DEBUG regexforge." ++ event.entry.1 ++ ": " ++ event.entry.2 ++ "\n"

namespace Journal

/-- The events of the stages. -/
def ofStages (config : Config) : List Event :=
  (Pipeline.outputs config Stage.all (.text "")).map fun (stage, output) => .stageRun stage output

/-- The events of building a pattern. -/
def ofBuild (config : Config) : List Event :=
  match Shape.select? config with
  | some .creditCard =>
    .shapeUsed .creditCard :: (CardBrand.skipped (config.list .cardBrands)).map .brandSkipped
  | some shape => [.shapeUsed shape]
  | none => ofStages config

/-- The events of compiling a matcher. -/
def ofCompile (config : Config) : List Event :=
  ofBuild config ++
    match Matcher.ofConfig config with
    | .ok matcher => [.compiled matcher.text matcher.options.flagSum]
    | .error _ => []

/-- The events of an explanation: the pattern is built once, and without a shape the stages run a
second time for their outputs. -/
def ofExplanation (config : Config) : List Event :=
  ofBuild config ++ if (Shape.select? config).isSome then [] else ofStages config

end Journal

end Patternwright
