import Patternwright.CommandLine.Table
import Patternwright.CommandLine.Word

/-!
# Reading a command line

A command line has options, the name of a command, and the options of that command, which extend to
its end. The whole line is recognised with the options before the command first, and what follows
the command a second time with its own options. Words that belong nowhere are collected; the line is
wrong if there are any, but a complaint about anything else comes first.

## Main definitions

* `Request` — a command with its settings
* `Halt` — why a command line is no request
* `collect` — the settings of recognised words, and the words that belong nowhere
* `parse` — the request of a command line
-/

namespace Patternwright.CommandLine

/-- The name under which the program is run. -/
def programName : String := "regexforge"

/-- A command with its settings. -/
structure Request where
  isVerbose : Bool
  command : Command
  settings : List Setting
  deriving DecidableEq, Repr

/-- Why a command line is no request. -/
inductive Halt where
  /-- The line is wrong; the complaint is about the part before a command or about a command. -/
  | usage (command? : Option Command) (complaint : String)
  | version
  | help (command? : Option Command)
  deriving DecidableEq, Repr

/-- The complaint about a value that an option does not take. -/
def ignoredComplaint (spec : OptionSpec) (value : List Char) : String :=
  spec.title ++ ": ignored explicit argument " ++ Text.quoted (String.ofList value)

/-- What a word with an attached value amounts to: options without values, then an option that still
takes its values from the words behind, an option with its value, or letters that belong nowhere. -/
inductive Rest where
  | open (spec : OptionSpec)
  | valued (spec : OptionSpec) (value : List Char)
  | stray (text : List Char)

/-- The options of a word with an attached value. An option after one hyphen that takes no value has
the letters of more options behind it. -/
def openWord (names : Names) (spec : OptionSpec) (isShort isSetOff : Bool) (value : List Char) :
    Except String (List OptionSpec × Rest) :=
  match spec.takes with
  | .one _ | .several _ => .ok ([], .valued spec value)
  | .nothing _ =>
    match value with
    | [] => .error (ignoredComplaint spec value)
    | letter :: more =>
      if !isShort || isSetOff || letter = '-' then .error (ignoredComplaint spec value)
      else
        match names.lookup (String.ofList ['-', letter]) with
        | none => .ok ([spec], .stray ('-' :: value))
        | some next =>
          match more with
          | [] => .ok ([spec], .open next)
          | '=' :: value => do
            let (specs, rest) ← openWord names next isShort true value
            return (spec :: specs, rest)
          | c :: others => do
            let (specs, rest) ← openWord names next isShort false (c :: others)
            return (spec :: specs, rest)
termination_by value.length

/-- The setting that one value makes. -/
def settingOf (spec : OptionSpec) (value : String) : Except String Setting :=
  match spec.takes with
  | .nothing setting => .ok setting
  | .one read =>
    match read value with
    | .ok setting => .ok setting
    | .error complaint => .error (spec.title ++ ": " ++ complaint)
  | .several setting => .ok (setting [value])

/-- The plain words at the start of a line. -/
def plainTexts : List Word → List String
  | .plain text :: words => text :: plainTexts words
  | _ => []

/-- The setting of an option whose values are the words behind it, and how many they are. -/
def settingBefore (spec : OptionSpec) (words : List Word) : Except String (Setting × Nat) :=
  match spec.takes, plainTexts words with
  | .nothing setting, _ => .ok (setting, 0)
  | .one _, value :: _ => do return (← settingOf spec value, 1)
  | .one _, [] => .error (spec.title ++ ": expected one argument")
  | .several setting, value :: values => .ok (setting (value :: values), values.length + 1)
  | .several _, [] => .error (spec.title ++ ": expected at least one argument")

/-- What an option at the start of a line amounts to: its settings, the words that belong nowhere
and the count of words behind it that are its values. -/
def settingsAt (names : Names) (spec : OptionSpec) (name : String) (attached? : Option Attached)
    (words : List Word) : Except String (List Setting × List String × Nat) :=
  match attached? with
  | none => do
    let (setting, count) ← settingBefore spec words
    return ([setting], [], count)
  | some attached => do
    let isShort := !name.startsWith "--"
    let (specs, rest) ← openWord names spec isShort attached.isSetOff attached.value
    match rest with
    | .stray text =>
      return (← specs.mapM (settingOf · ""), [String.ofList text], 0)
    | .valued spec value =>
      let settings ← specs.mapM (settingOf · "")
      return (settings ++ [← settingOf spec (String.ofList value)], [], 0)
    | .open spec =>
      let (setting, count) ← settingBefore spec words
      return ((← specs.mapM (settingOf · "")) ++ [setting], [], count)

/-- The first of some settings that ends the reading of a line. -/
def haltAt (command? : Option Command) (settings : List Setting) : Except Halt Unit :=
  match settings.find? fun setting => setting = .help ∨ setting = .version with
  | some .help => .error (.help command?)
  | some _ => .error .version
  | none => .ok ()

/-- A complaint about a part of a line. -/
def complain {α : Type} (command? : Option Command) : Except String α → Except Halt α
  | .ok a => .ok a
  | .error complaint => .error (.usage command? complaint)

/-- The settings of the words behind a command, and the words that belong nowhere. -/
def collect (command : Command) (names : Names) (words : List Word) :
    Except Halt (List Setting × List String) :=
  match words with
  | [] => .ok ([], [])
  | .plain text :: words => do
    let (settings, strays) ← collect command names words
    return (settings, text :: strays)
  | .separator :: words => do
    let (settings, strays) ← collect command names words
    return (settings, "--" :: strays)
  | .unknown text :: words => do
    let (settings, strays) ← collect command names words
    return (settings, text :: strays)
  | .option spec name attached? :: words => do
    let (first, stray, count) ←
      complain command (settingsAt names spec name attached? words)
    haltAt command first
    let (settings, strays) ← collect command names (words.drop count)
    return (first ++ settings, stray ++ strays)
termination_by words.length
decreasing_by
  all_goals simp only [List.length_cons, List.length_drop]
  all_goals omega

/-- The settings of the words before a command, the words that belong nowhere, and the command with
the count of words behind it. -/
def collectGeneral (names : Names) (words : List Word) :
    Except Halt (List Setting × List String × Option (String × Nat)) :=
  match words with
  | [] => .ok ([], [], none)
  | .plain text :: words => .ok ([], [], some (text, words.length))
  | .separator :: [] => .ok ([], ["--"], none)
  | .separator :: words => .ok ([], [], some ("--", words.length))
  | .unknown text :: words => do
    let (settings, strays, command?) ← collectGeneral names words
    return (settings, text :: strays, command?)
  | .option spec name attached? :: words => do
    let (first, stray, count) ← complain none (settingsAt names spec name attached? words)
    haltAt none first
    let (settings, strays, command?) ← collectGeneral names (words.drop count)
    return (first ++ settings, stray ++ strays, command?)
termination_by words.length
decreasing_by
  all_goals simp only [List.length_cons, List.length_drop]
  all_goals omega

/-- The complaint about words that belong nowhere. -/
def strayComplaint (strays : List String) : String :=
  "unrecognized arguments: " ++ " ".intercalate strays

/-- The request of a command line. -/
def parse (line : List String) : Except Halt Request := do
  let names := namesOf generalOptions
  let words ← complain none (recognise names line)
  match ← collectGeneral names words with
  | (_, _, none) => .error (.usage none "the following arguments are required: command")
  | (general, strays, some (name, count)) =>
    match Command.ofName? name with
    | none =>
      .error (.usage none
        ("argument command: " ++ choiceComplaint name (Command.all.map Command.name)))
    | some command =>
      let names := namesOf command.options
      let words ← complain command (recognise names (line.drop (line.length - count)))
      let (settings, others) ← collect command names words
      if (strays ++ others).isEmpty then
        return ⟨general.contains .verbose, command, settings⟩
      else .error (.usage none (strayComplaint (strays ++ others)))

end Patternwright.CommandLine
