/-!
# Faults in a JSON document

Why a text is not a document, and where. As with patterns, a reader reports the place by the count
of characters left from there; the message gives it as line, column and offset.

## Main definitions

* `Json.Cause`, `Json.Fault` — a cause and its place
* `Fault.message` — the wording for a given document
-/

namespace Patternwright.Json

/-- What can be wrong with a document. -/
inductive Cause where
  | noValue
  | noKey
  | noColon
  | noComma
  | extraData
  | unterminatedText
  | controlCharacter
  | badEscape
  | badCodeEscape
  /-- An escape for one half of a surrogate pair, which is no character and so in no text here. -/
  | loneHalf
  | byteOrderMark
  /-- An integer written with more digits than a number may have. -/
  | numeralTooLong (digits : Nat)
  deriving DecidableEq, Repr

/-- The wording of a cause. -/
def Cause.message : Cause → String
  | noValue => "Expecting value"
  | noKey => "Expecting property name enclosed in double quotes"
  | noColon => "Expecting ':' delimiter"
  | noComma => "Expecting ',' delimiter"
  | extraData => "Extra data"
  | unterminatedText => "Unterminated string starting at"
  | controlCharacter => "Invalid control character at"
  | badEscape => "Invalid \\escape"
  | badCodeEscape => "Invalid \\uXXXX escape"
  | loneHalf => "Lone surrogate"
  | byteOrderMark => "Unexpected UTF-8 BOM (decode using utf-8-sig)"
  | numeralTooLong digits =>
    "Exceeds the limit (4300 digits) for integer string conversion: value has " ++
      toString digits ++ " digits; use sys.set_int_max_str_digits() to increase the limit"

/-- The cause is about the size of a number, not about the form of the document. Its message gives
no place. -/
def Cause.isSize : Cause → Bool
  | numeralTooLong _ => true
  | _ => false

/-- A cause, and how many characters are left from its place to the end of the document. -/
structure Fault where
  cause : Cause
  left : Nat
  deriving DecidableEq, Repr

/-- The wording of a fault in a document. Lines and columns are counted from one, offsets from
zero. -/
def Fault.message (document : String) (fault : Fault) : String :=
  if fault.cause.isSize then fault.cause.message
  else
    let chars := document.toList
    let offset := chars.length - fault.left
    let before := chars.take offset
    let line := before.count '\n' + 1
    let column := (before.reverse.takeWhile (· != '\n')).length + 1
    fault.cause.message ++ ": line " ++ toString line ++ " column " ++ toString column ++
      " (char " ++ toString offset ++ ")"

end Patternwright.Json
