import Patternwright.CommandLine.Option

/-!
# The options of each command

## Main definitions

* `Command`, `Command.all` — the commands
* `generalOptions` — the options before a command
* `Command.options` — the options of a command
-/

namespace Patternwright.CommandLine

/-- What the program can do. -/
inductive Command where
  | build
  | test
  | explain
  | shapes
  deriving DecidableEq, Repr

namespace Command

/-- All commands. -/
def all : List Command := [build, test, explain, shapes]

/-- The name of a command. -/
def name : Command → String
  | build => "build"
  | test => "test"
  | explain => "explain"
  | shapes => "shapes"

/-- The command with a name. -/
def ofName? (name : String) : Option Command := all.find? fun command => command.name == name

end Command

/-- The option that every part of the command line has. -/
def helpOption : OptionSpec := ⟨["-h", "--help"], switchTo .help⟩

/-- The options before a command. -/
def generalOptions : List OptionSpec := [
  helpOption,
  ⟨["-V", "--version"], switchTo .version⟩,
  ⟨["-v", "--verbose"], switchTo .verbose⟩]

/-- The options that describe a configuration. -/
def configOptions : List OptionSpec := [
  ⟨["--config"], textValue .document⟩,
  ⟨["--digits"], switchTo (.switch .digits)⟩,
  ⟨["--letters"], switchTo (.switch .letters)⟩,
  ⟨["--whitespace"], switchTo (.switch .whitespace)⟩,
  ⟨["--special"], switchTo (.switch .special)⟩,
  ⟨["--arabic"], switchTo (.switch .arabic)⟩,
  ⟨["--ignore-case"], switchTo (.switch .caseInsensitive)⟩,
  ⟨["--multiline"], switchTo (.switch .multiLine)⟩,
  ⟨["--dotall"], switchTo (.switch .dotAll)⟩,
  ⟨["--custom"], textValue (.textField .custom)⟩,
  ⟨["--shape"], choiceValue (Shape.all.map fun shape => (shape.name, shape)) .shape⟩,
  ⟨["--min-length"], numberValue (.numberField .minLength)⟩,
  ⟨["--max-length"], numberValue (.numberField .maxLength)⟩,
  ⟨["--exact-repetitions"], numberValue (.numberField .exactRepetitions)⟩,
  ⟨["--min-repetitions"], numberValue (.numberField .minRepetitions)⟩,
  ⟨["--max-repetitions"], numberValue (.numberField .maxRepetitions)⟩,
  ⟨["--prefix"], textValue (.textField .opening)⟩,
  ⟨["--suffix"], textValue (.textField .closing)⟩,
  ⟨["--must-contain"], textValue (.word .mustContain)⟩,
  ⟨["--must-not-contain"], textValue (.word .mustNotContain)⟩,
  ⟨["--allowed-words"], wordList (.words .allowedWords)⟩,
  ⟨["--disallowed-words"], wordList (.words .disallowedWords)⟩,
  ⟨["--date-format"], textValue (.textField .dateFormat)⟩,
  ⟨["--time-format"], textValue (.textField .timeFormat)⟩,
  ⟨["--cards"], wordList (.words .cardBrands)⟩]

/-- The option that chooses the form of a result. -/
def layoutOption : OptionSpec :=
  ⟨["--format"], choiceValue [("text", Layout.text), ("json", Layout.json)] .layout⟩

/-- The options of a command. -/
def Command.options : Command → List OptionSpec
  | build => helpOption :: configOptions ++ [layoutOption, ⟨["--out"], textValue .out⟩]
  | test =>
    helpOption :: configOptions ++ [
      ⟨["-s", "--sample"], textValue .sample⟩,
      ⟨["--samples"], textValue .samples⟩,
      ⟨["--expect"],
        choiceValue [("match", Verdict.accept), ("reject", Verdict.reject)] .expect⟩]
  | explain => helpOption :: configOptions ++ [layoutOption]
  | shapes => [helpOption, layoutOption]

end Patternwright.CommandLine
