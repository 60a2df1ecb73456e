import Patternwright.CommandLine.Overlay
import Patternwright.Explain
import Patternwright.Journal
import Patternwright.Json.Writer

/-!
# Actions

A command does one thing after the other: it reads a document, makes a matcher, reads samples, opens
a file, writes. What it has done stays done. If something goes wrong, the command breaks off there,
with the output, the files and the journal as they are at that moment.

## Main definitions

* `Effects` — what a command has done so far
* `Action` — something that a command does
* `Action.configure`, `Action.gather`, `Action.compile`, `Action.explain` — actions that read and
  make something
* `Action.write`, `Action.writeDocument`, `Action.present` — actions that write
-/

namespace Patternwright.CommandLine

/-- What a command has done so far: the files as they are now, the output, and the journal. -/
structure Effects where
  world : World
  output : String
  events : List Event

/-- Nothing has been done yet. -/
def Effects.start (world : World) : Effects := ⟨world, "", []⟩

/-- Something that a command does. It gives a result or breaks off with an error, and either way it
leaves its effects. -/
abbrev Action := EStateM Error Effects

/-- A text that ends with a line feed. -/
def closeLine (text : String) : String := if text.endsWith "\n" then text else text ++ "\n"

/-- The single samples that settings give. -/
def singleSamples (settings : List Setting) : List String :=
  settings.filterMap fun | .sample text => some text | _ => none

/-- The file of samples that settings name; the empty path names none. -/
def samplesFile? (settings : List Setting) : Option String :=
  (last? (fun | .samples path => some path | _ => none) settings).filter (· != "")

/-- The samples that settings give: single ones first, then those of a file. -/
def samplesOf (world : World) (settings : List Setting) : Except Error (List String) := do
  match samplesFile? settings with
  | some path => return singleSamples settings ++ (← world.files.readSamples path)
  | none => return singleSamples settings

namespace Action

/-- Something that has been found out without doing anything. -/
def of {α : Type} : Except Error α → Action α
  | .ok a => pure a
  | .error error => throw error

/-- Puts events into the journal. -/
def record (events : List Event) : Action Unit :=
  modify fun effects => { effects with events := effects.events ++ events }

/-- Finds the configuration that settings describe. -/
def configure (settings : List Setting) : Action Config := do
  of (configOf (← get).world settings)

/-- Finds the samples that settings give. -/
def gather (settings : List Setting) : Action (List String) := do
  of (samplesOf (← get).world settings)

/-- Makes the matcher of a configuration. -/
def compile (config : Config) : Action Matcher := do
  record (Journal.ofCompile config)
  of (Matcher.ofConfig config)

/-- Makes the explanation of a configuration. -/
def explain (config : Config) : Action Explanation := do
  record (Journal.ofExplanation config)
  of (Explanation.ofConfig config)

/-- Puts a text behind the output. -/
def print (text : String) : Action Unit :=
  modify fun effects => { effects with output := effects.output ++ text }

/-- Gives a file another content. -/
def fill (name : String) (bytes : List UInt8) : Action Unit :=
  modify fun effects =>
    { effects with world := { effects.world with files := effects.world.files.put name bytes } }

/-- Writes a text to a path. A file is opened first, which empties it. -/
def write (text path : String) : Action Unit := do
  if path = standardStream then print (closeLine text)
  else
    let name ← of ((← get).world.files.target path)
    fill name []
    fill name (Encoding.encode (closeLine text).toList)

/-- Writes a value to a path, as a document. -/
def writeDocument (value : Value) (path : String) : Action Unit := do
  if value.isWritable then write (Json.write value) path else throw .unwritable

/-- Writes a result to a path, as the document of a value or as a text. -/
def present (layout : Layout) (value : Value) (text path : String) : Action Unit :=
  match layout with
  | .json => writeDocument value path
  | .text => write text path

end Action

end Patternwright.CommandLine
