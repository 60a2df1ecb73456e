import Patternwright.CommandLine.Parse
import Patternwright.Config.Basic
import Patternwright.Directory
import Patternwright.Json.Reader

/-!
# The configuration of a command

The configuration that a command works on is that of its document, or the default one, with what the
settings say laid over it. A field that no setting is about keeps the value of the document.

## Main definitions

* `World` — what a command can read
* `World.document` — the configuration of a document
* `changesOf` — what settings change in a configuration
* `configOf` — the configuration that settings describe
-/

namespace Patternwright.CommandLine

/-- What a command can read: files and standard input. -/
structure World where
  files : Directory
  input : String

/-- The path that stands for standard input or output. -/
def standardStream : String := "-"

/-- The configuration of the document at a path. -/
def World.document (world : World) (path : String) : Except Error Config := do
  let text ← if path = standardStream then pure world.input.toList else world.files.readText path
  match Json.read text with
  | .ok value => Config.ofDocument value
  | .error fault => .error (.document (String.ofList text) fault)

/-- The texts of a list as values. -/
def textList (texts : List String) : Value := .list (texts.map .text)

/-- The words that settings add one by one to a list. -/
def addedWords (field : ListField) (settings : List Setting) : List String :=
  settings.filterMap fun
    | .word f text => if f = field then some text else none
    | _ => none

/-- What one setting changes in a configuration, given all settings: words that are added one by one
make one list. -/
def changeOf (settings : List Setting) : Setting → Option Change
  | .switch field => some (.scalar field, .bool true)
  | .textField field text => some (.scalar field, .text text)
  | .numberField field n => some (.scalar field, .int n)
  | .shape shape => some (.scalar (.shape shape), .bool true)
  | .word field _ => some (.list field, textList (addedWords field settings))
  | .words field texts => some (.list field, textList texts)
  | _ => none

/-- What settings change in a configuration. -/
def changesOf (settings : List Setting) : List Change := settings.filterMap (changeOf settings)

/-- The path of the document that settings name; the empty path names none. -/
def documentOf? (settings : List Setting) : Option String :=
  (last? (fun | .document path => some path | _ => none) settings).filter (· != "")

/-- The configuration that settings describe. -/
def configOf (world : World) (settings : List Setting) : Except Error Config := do
  let config ←
    match documentOf? settings with
    | some path => world.document path
    | none => pure Config.default
  config.overlay (changesOf settings)

end Patternwright.CommandLine
