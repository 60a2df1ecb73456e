import Patternwright.CommandLine.Option

/-!
# Words of the command line

Before anything is done with a command line, each of its words is recognised: as an option, with or
without a value in the same word, as something that looks like an option but is none, or as plain.
The word `--` makes all words after it plain.

Long options may be shortened as long as only one is meant. A single letter after one hyphen may
have its value or more such letters behind it. Negative numbers and words with a space in them are
plain, unless they are recognised as options first.

## Main definitions

* `Word` — a recognised word
* `Word.ofText` — how one word is recognised
* `recognise` — how a command line is recognised
-/

namespace Patternwright.CommandLine

/-- A value in the same word as its option. It may be set off by `=`. -/
structure Attached where
  isSetOff : Bool
  value : List Char
  deriving DecidableEq, Repr

/-- A recognised word. -/
inductive Word where
  | plain (text : String)
  | separator
  | option (spec : OptionSpec) (name : String) (attached? : Option Attached)
  | unknown (text : String)

/-- The names of options, each with its option. -/
abbrev Names := List (String × OptionSpec)

/-- The names of some options in their order. -/
def namesOf (specs : List OptionSpec) : Names :=
  specs.flatMap fun spec => spec.names.map fun name => (name, spec)

/-- A word before its first `=`, and what is behind that. -/
def splitAtEquals (text : List Char) : List Char × Option (List Char) :=
  match text.span (· != '=') with
  | (name, _ :: value) => (name, some value)
  | (name, []) => (name, none)

/-- A word that is a negative number: digits, or digits around one point. A line feed at the end
does not count. -/
def isNegativeNumber (text : List Char) : Bool :=
  match text with
  | '-' :: rest =>
    let body := if rest.getLast? = some '\n' then rest.dropLast else rest
    let (whole, rest) := body.span fun c => Unicode.isDecimal c.toNat
    match rest with
    | [] => !whole.isEmpty
    | '.' :: fraction => !fraction.isEmpty && fraction.all fun c => Unicode.isDecimal c.toNat
    | _ => false
  | _ => false

/-- The options that a word may mean although it is not the name of one: those whose long names
begin as the word does, or the one whose letter it begins with. -/
def readings (names : Names) (text : List Char) : List (String × OptionSpec × Option Attached) :=
  match text with
  | '-' :: '-' :: _ =>
    let (beginning, value?) := splitAtEquals text
    (names.filter fun (name, _) => beginning.isPrefixOf name.toList).map fun (name, spec) =>
      (name, spec, value?.map fun value => ⟨true, value⟩)
  | '-' :: letter :: value =>
    names.filterMap fun (name, spec) =>
      if name.toList = ['-', letter] then some (name, spec, some ⟨false, value⟩)
      else if text.isPrefixOf name.toList then some (name, spec, none)
      else none
  | _ => []

/-- The complaint about a word that several options begin with. -/
def ambiguousComplaint (text : String) (found : List String) : String :=
  "ambiguous option: " ++ text ++ " could match " ++ ", ".intercalate found

/-- A word that begins with a hyphen and is the name of no option, also not together with a value
behind `=`. -/
def Word.ofOtherText (names : Names) (text : String) : Except String Word :=
  match readings names text.toList with
  | [(name, spec, attached?)] => .ok (.option spec name attached?)
  | first :: second :: more =>
    .error (ambiguousComplaint text ((first :: second :: more).map (·.1)))
  | [] =>
    if isNegativeNumber text.toList || text.contains ' ' then .ok (.plain text)
    else .ok (.unknown text)

/-- How a word is recognised. -/
def Word.ofText (names : Names) (text : String) : Except String Word :=
  match text.toList with
  | '-' :: _ :: _ =>
    match names.lookup text with
    | some spec => .ok (.option spec text none)
    | none =>
      match splitAtEquals text.toList with
      | (_, none) => Word.ofOtherText names text
      | (name, some value) =>
        match names.lookup (String.ofList name) with
        | some spec => .ok (.option spec (String.ofList name) (some ⟨true, value⟩))
        | none => Word.ofOtherText names text
  | _ => .ok (.plain text)

/-- How the words of a command line are recognised, or a complaint about the first one that may mean
several options. -/
def recognise (names : Names) : List String → Except String (List Word)
  | [] => .ok []
  | "--" :: texts => .ok (.separator :: texts.map .plain)
  | text :: texts => do
    let word ← Word.ofText names text
    return word :: (← recognise names texts)

end Patternwright.CommandLine
