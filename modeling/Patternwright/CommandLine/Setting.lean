import Patternwright.Config.Field

/-!
# Settings

A setting is an option of the command line together with its value, read and checked.

## Main definitions

* `Setting` — the settings
* `Layout`, `Verdict` — values that are one of two words
-/

namespace Patternwright.CommandLine

/-- The form in which a result is written. -/
inductive Layout where
  | text
  | json
  deriving DecidableEq, Repr

/-- What is expected of samples. -/
inductive Verdict where
  | accept
  | reject
  deriving DecidableEq, Repr

/-- An option with its value. -/
inductive Setting where
  | help
  | version
  | verbose
  /-- The file of a configuration. -/
  | document (path : String)
  /-- A switch of the configuration is on. -/
  | switch (field : Scalar)
  | textField (field : Scalar) (text : String)
  | numberField (field : Scalar) (n : Int)
  | shape (shape : Shape)
  /-- One more word in a list. -/
  | word (field : ListField) (text : String)
  /-- All words of a list. -/
  | words (field : ListField) (texts : List String)
  | layout (layout : Layout)
  | out (path : String)
  | sample (text : String)
  | samples (path : String)
  | expect (verdict : Verdict)
  deriving DecidableEq, Repr

/-- The last value that settings give, of those that `pick` chooses. -/
def last? {α : Type} (pick : Setting → Option α) (settings : List Setting) : Option α :=
  (settings.filterMap pick).getLast?

end Patternwright.CommandLine
