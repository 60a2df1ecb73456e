import Patternwright.Config.Field
import Patternwright.Json.Fault
import Patternwright.Regex.Fault
import Patternwright.Text.Encoding

/-!
# Errors

Everything that can go wrong between a configuration and a match, and its wording. A command reports
an error of its input and goes on to end in order; the few others end the program.

## Main definitions

* `Error` — what can go wrong
* `Error.message` — its wording
* `Error.isReported` — whether a command reports it
-/

namespace Patternwright

/-- What can go wrong. `kind` is the name of a value's kind. -/
inductive Error where
  /-- A document has a key that no field has. -/
  | unknownKey (key : String)
  /-- A field is given that does not exist. -/
  | unknownField (name : String)
  /-- A field of a configuration is assigned to. -/
  | frozenField (name : String)
  /-- A text stands where a list belongs. -/
  | textForList (field : ListField)
  /-- A value that has no items stands where a list belongs. -/
  | notIterable (kind : String)
  /-- The document of a configuration is not an object. -/
  | notAnObject
  /-- No shape has the name; `shown` is how the name stands in messages. -/
  | unknownShape (shown : String)
  /-- A value that is no text is to be matched literally. -/
  | literalNotText (kind : String)
  /-- A value that is no text is put behind a text. -/
  | appendedToText (kind : String)
  /-- A text is put behind a value that is no text. -/
  | textAppended (kind : String)
  /-- A format is not a text. -/
  | formatNotText (kind : String)
  /-- A card brand is a list or an object. -/
  | brandNotKey (kind : String)
  /-- A pattern is not well formed, or, before it has a text, cannot be written. -/
  | pattern (text : String) (fault : Regex.Fault)
  /-- A document is not well formed. -/
  | document (text : String) (fault : Json.Fault)
  /-- A file is not text. -/
  | encoding (fault : Encoding.Fault)
  | noSuchFile (path : String)
  | isDirectory (path : String)
  | notADirectory (path : String)
  | nameTooLong (path : String)
  /-- The path of a file holds the null character. -/
  | nullInPath
  deriving DecidableEq, Repr

/-- A configuration's constructor, as messages name it. -/
def constructorName : String := "PatternConfig.__init__()"

/-- The name that the constructor has for the configuration itself. -/
def receiverName : String := "self"

namespace Error

/-- A value that is to stand in a pattern has an integer with too many digits. -/
def unwritable : Error := .pattern "" ⟨.countUnwritable, none⟩

/-- The wording of a failed file operation. -/
def fileMessage (number : Nat) (what path : String) : String :=
  "[Errno " ++ toString number ++ "] " ++ what ++ ": " ++ Text.quoted path

/-- The wording of an error. -/
def message : Error → String
  | unknownKey key => "unknown configuration key: " ++ key
  | unknownField name =>
    if name = receiverName then
      constructorName ++ " got multiple values for argument " ++ Text.quoted name
    else constructorName ++ " got an unexpected keyword argument '" ++ name ++ "'"
  | frozenField name => "cannot assign to field " ++ Text.quoted name
  | textForList field => field.name ++ " must be a sequence of strings, not a string"
  | notIterable kind => "'" ++ kind ++ "' object is not iterable"
  | notAnObject => "configuration file must contain a JSON object"
  | unknownShape shown => shown ++ " is not a valid Shape"
  | literalNotText kind => "decoding to str: need a bytes-like object, " ++ kind ++ " found"
  | appendedToText kind => "can only concatenate str (not \"" ++ kind ++ "\") to str"
  | textAppended kind =>
    if kind = "list" then "can only concatenate list (not \"str\") to list"
    else "unsupported operand type(s) for +: '" ++ kind ++ "' and 'str'"
  | formatNotText kind => "'" ++ kind ++ "' object has no attribute 'replace'"
  | brandNotKey kind => "unhashable type: '" ++ kind ++ "'"
  | pattern text fault =>
    if fault.cause.isOfForm then
      "Error generating regular expression: " ++ fault.message text
    else fault.message text
  | document text fault => fault.message text
  | encoding fault => fault.message
  | noSuchFile path => fileMessage 2 "No such file or directory" path
  | isDirectory path => fileMessage 21 "Is a directory" path
  | notADirectory path => fileMessage 20 "Not a directory" path
  | nameTooLong path => fileMessage 36 "File name too long" path
  | nullInPath => "embedded null byte"

/-- Whether a command reports the error. Errors of the file system, a number in a pattern past the
largest one of its kind and a format that is no text end the program instead. -/
def isReported : Error → Bool
  | noSuchFile _ | isDirectory _ | notADirectory _ | nameTooLong _ => false
  | frozenField _ | formatNotText _ => false
  | pattern _ fault => !fault.cause.isOverflow
  | _ => true

end Error

end Patternwright
