/-!
# Options of a pattern

A pattern is read and matched under options. The caller gives some of them, the pattern's own text
may add more, and a scoped group changes them for its content alone.

## Main definitions

* `Regex.Flag` — the letters that stand for options in a pattern's text
* `Regex.Options` — what matching depends on
* `Regex.Options.rescope` — the options inside a scoped group
-/

namespace Patternwright.Regex

/-- An option that a pattern's text can name by a letter. -/
inductive Flag where
  /-- Letters match without regard to case. -/
  | ignoreCase
  /-- Character classes follow the locale; no text pattern may ask for it. -/
  | locale
  /-- `^` and `$` also match at line breaks. -/
  | multiLine
  /-- `.` also matches a line break. -/
  | dotAll
  /-- White space and comments in the pattern are skipped. -/
  | verbose
  /-- Character classes and letter case know ASCII only. -/
  | ascii
  /-- A pattern without repetitions. -/
  | template
  /-- Character classes and letter case know all scripts. -/
  | unicode
  deriving DecidableEq, Repr

namespace Flag

/-- The option that a letter stands for. -/
def ofChar? : Char → Option Flag
  | 'i' => some ignoreCase
  | 'L' => some locale
  | 'm' => some multiLine
  | 's' => some dotAll
  | 'x' => some verbose
  | 'a' => some ascii
  | 't' => some template
  | 'u' => some unicode
  | _ => none

/-- The option chooses the repertoire of character classes; a pattern can have one of these. -/
def isRepertoire : Flag → Bool
  | ascii | locale | unicode => true
  | _ => false

/-- The option holds for a pattern as a whole and not for a part of it. -/
def isGlobalOnly : Flag → Bool
  | template => true
  | _ => false

end Flag

/-- What matching depends on. -/
structure Options where
  ignoreCase : Bool := false
  multiLine : Bool := false
  dotAll : Bool := false
  ascii : Bool := false
  deriving DecidableEq, Repr

namespace Options

/-- The options with one more switched on. -/
def switchOn (options : Options) : Flag → Options
  | .ignoreCase => { options with ignoreCase := true }
  | .multiLine => { options with multiLine := true }
  | .dotAll => { options with dotAll := true }
  | .ascii => { options with ascii := true }
  | .unicode => { options with ascii := false }
  | .locale | .verbose | .template => options

/-- The options with one switched off; the repertoire cannot be switched off. -/
def switchOff (options : Options) : Flag → Options
  | .ignoreCase => { options with ignoreCase := false }
  | .multiLine => { options with multiLine := false }
  | .dotAll => { options with dotAll := false }
  | .locale | .verbose | .ascii | .template | .unicode => options

/-- The options inside a group that switches `on` some options and `off` others. -/
def rescope (options : Options) (on off : List Flag) : Options :=
  off.foldl switchOff (on.foldl switchOn options)

end Options

end Patternwright.Regex
