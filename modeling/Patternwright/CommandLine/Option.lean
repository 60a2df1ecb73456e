import Patternwright.CommandLine.Setting
import Patternwright.Number.Numeral
import Patternwright.Text.Quoted

/-!
# Options of the command line

An option has names, of which the long ones may be shortened, and takes no value, one value or
several. What the values mean is part of the option: they are texts, integers, or one of a few
words.

## Main definitions

* `OptionSpec`, `OptionSpec.title` — options
* `switchTo`, `textValue`, `numberValue`, `choiceValue`, `wordList` — what an option takes
* `OptionSpec.settings` — the setting that values make
-/

namespace Patternwright.CommandLine

/-- The values that an option takes, and the setting that they make or the complaint about them. -/
inductive Takes where
  | nothing (setting : Setting)
  | one (read : String → Except String Setting)
  | several (setting : List String → Setting)

/-- An option. -/
structure OptionSpec where
  names : List String
  takes : Takes

namespace OptionSpec

/-- The option as complaints name it. -/
def title (spec : OptionSpec) : String := "argument " ++ "/".intercalate spec.names

end OptionSpec

/-- No value. -/
def switchTo (setting : Setting) : Takes := .nothing setting

/-- One text. -/
def textValue (setting : String → Setting) : Takes := .one fun text => .ok (setting text)

/-- One integer. -/
def numberValue (setting : Int → Setting) : Takes :=
  .one fun text =>
    match Numeral.readInt? text.toList with
    | some n => .ok (setting n)
    | none => .error ("invalid int value: " ++ Text.quoted text)

/-- The complaint about a word that is none of those to choose from. -/
def choiceComplaint (text : String) (choices : List String) : String :=
  "invalid choice: " ++ Text.quoted text ++ " (choose from " ++
    ", ".intercalate (choices.map Text.quoted) ++ ")"

/-- One of a few words. -/
def choiceValue {α : Type} (choices : List (String × α)) (setting : α → Setting) : Takes :=
  .one fun text =>
    match choices.lookup text with
    | some choice => .ok (setting choice)
    | none => .error (choiceComplaint text (choices.map (·.1)))

/-- One or more texts. -/
def wordList (setting : List String → Setting) : Takes := .several setting

end Patternwright.CommandLine
