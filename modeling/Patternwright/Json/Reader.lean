import Patternwright.Json.Fault
import Patternwright.Number.Numeral
import Patternwright.Value

/-!
# Reading JSON

A document is one value with blanks around it. Beyond the standard, the numbers `NaN`, `Infinity`
and `-Infinity` are read too. Of several members with the same key the first gives the place and the
last the value. Texts are made of characters, so a document that spells half of a surrogate pair
without the other one is refused. Lists and objects may be nested as deep as memory allows.

Readers take the text that is left and answer with what they read and the text after it.

## Main definitions

* `Json.readText`, `Json.readNumber?`, `Json.readValue` — readers of parts
* `Json.read` — the value of a document
-/

namespace Patternwright.Json

/-- The fault with its place at the start of `rest`. -/
def stop {α : Type} (cause : Cause) (rest : List Char) : Except Fault α :=
  .error ⟨cause, rest.length⟩

/-- A blank between the parts of a document. -/
def isGap (c : Char) : Bool := c == ' ' || c == '\t' || c == '\n' || c == '\r'

/-- The text after the blanks at its start. -/
def skipGap (text : List Char) : List Char := text.dropWhile isGap

/-- The code that four hexadecimal digits give. -/
def hexCode? (digits : List Char) : Option Nat :=
  if digits.length = 4 then (digits.mapM Digit.value?).map (Digit.number 16) else none

/-- The first half of a surrogate pair. -/
def isHighHalf (code : Nat) : Bool := 0xD800 ≤ code && code ≤ 0xDBFF

/-- The second half of a surrogate pair. -/
def isLowHalf (code : Nat) : Bool := 0xDC00 ≤ code && code ≤ 0xDFFF

/-- The character with a code. A half of a pair is none. -/
def charOfCode? (code : Nat) : Option Char :=
  if isHighHalf code || isLowHalf code then none else some (Char.ofNat code)

/-- The character with the code of an escape. `mark` is the text from the `u` of the escape on. -/
def readSingle (mark : List Char) (code : Nat) (rest : List Char) :
    Except Fault (Char × List Char) :=
  match charOfCode? code with
  | some c => .ok (c, rest)
  | none => stop .loneHalf mark

/-- The character of a code escape, read after its `u`. `mark` is the text from the `u` on. Two
escapes in a row that are the halves of a pair are one character. The digits of an escape are never
the last characters of a document. -/
def readCode (mark rest : List Char) : Except Fault (Char × List Char) :=
  if rest.length ≤ 4 then stop .badCodeEscape mark
  else
    match hexCode? (rest.take 4), rest.drop 4 with
    | none, _ => stop .badCodeEscape mark
    | some high, '\\' :: 'u' :: more =>
      if isHighHalf high ∧ 4 < more.length then
        match hexCode? (more.take 4) with
        | none => stop .badCodeEscape ('u' :: more)
        | some low =>
          if isLowHalf low then
            .ok (Char.ofNat (0x10000 + (high - 0xD800) * 0x400 + (low - 0xDC00)), more.drop 4)
          else readSingle mark high (rest.drop 4)
      else readSingle mark high (rest.drop 4)
    | some code, more => readSingle mark code more

/-- The character that a letter after a backslash stands for. -/
def escaped? : Char → Option Char
  | '"' => some '"'
  | '\\' => some '\\'
  | '/' => some '/'
  | 'b' => some '\x08'
  | 'f' => some '\x0c'
  | 'n' => some '\n'
  | 'r' => some '\r'
  | 't' => some '\t'
  | _ => none

/-- The characters of a text up to its closing quote. `opening` is the document from the opening
quote on. -/
def readChars (opening : List Char) :
    (fuel : Nat) → List Char → Except Fault (List Char × List Char)
  | 0, _ => stop .unterminatedText opening
  | _ + 1, [] => stop .unterminatedText opening
  | fuel + 1, c :: rest =>
    if c = '"' then .ok ([], rest)
    else if c = '\\' then
      match rest with
      | [] => stop .unterminatedText opening
      | 'u' :: digits => do
        let (code, rest) ← readCode rest digits
        let (text, rest) ← readChars opening fuel rest
        return (code :: text, rest)
      | letter :: after =>
        match escaped? letter with
        | none => stop .badEscape (c :: rest)
        | some meant => do
          let (text, rest) ← readChars opening fuel after
          return (meant :: text, rest)
    else if c.toNat ≤ 0x1F then stop .controlCharacter (c :: rest)
    else do
      let (text, rest) ← readChars opening fuel rest
      return (c :: text, rest)

/-- A text, read after its opening quote. -/
def readText (rest : List Char) : Except Fault (String × List Char) := do
  let (text, rest) ← readChars ('"' :: rest) (rest.length + 1) rest
  return (String.ofList text, rest)

/-- The digits of a whole number: a zero alone, or digits that do not begin with zero. -/
def splitWhole? : List Char → Option (List Char × List Char)
  | '0' :: rest => some (['0'], rest)
  | c :: rest =>
    if c.isDigit then some (c :: rest.takeWhile Char.isDigit, rest.dropWhile Char.isDigit) else none
  | [] => none

/-- The digits after a point, none if there is no point with a digit after it. -/
def splitFraction : List Char → List Char × List Char
  | '.' :: rest =>
    if rest.head?.any Char.isDigit then rest.span Char.isDigit else ([], '.' :: rest)
  | rest => ([], rest)

/-- The exponent after an `e`, none if it has no digit. -/
def splitExponent (text : List Char) : Option Int × List Char :=
  match text with
  | mark :: rest =>
    if mark = 'e' ∨ mark = 'E' then
      let (negative, digits) :=
        match rest with
        | '-' :: digits => (true, digits)
        | '+' :: digits => (false, digits)
        | digits => (false, digits)
      match digits.span Char.isDigit with
      | ([], _) => (none, text)
      | (digits, rest) =>
        let magnitude : Int := Digit.numberOf 10 digits
        (some (if negative then -magnitude else magnitude), rest)
    else (none, text)
  | [] => (none, [])

/-- A number, read from its sign or first digit. -/
def readNumber (text : List Char) : Except Fault (Value × List Char) :=
  let (negative, unsigned) :=
    match text with
    | '-' :: rest => (true, rest)
    | rest => (false, rest)
  match splitWhole? unsigned with
  | none => stop .noValue text
  | some (whole, rest) =>
    let (fraction, rest) := splitFraction rest
    let (exponent?, rest) := splitExponent rest
    if fraction.isEmpty ∧ exponent?.isNone then
      if Numeral.digitLimit < whole.length then stop (.numeralTooLong whole.length) text
      else
        let magnitude : Int := Digit.numberOf 10 whole
        .ok (.int (if negative then -magnitude else magnitude), rest)
    else
      let exponent := exponent?.getD 0 - fraction.length
      .ok (.real (.ofDecimal negative (Digit.numberOf 10 (whole ++ fraction)) exponent), rest)

/-- Words that stand for values. -/
def words : List (String × Value) := [
  ("null", .null), ("true", .bool true), ("false", .bool false), ("NaN", .real .notANumber),
  ("Infinity", .real (.infinite false)), ("-Infinity", .real (.infinite true))]

/-- A word or a number. -/
def readPlain (text : List Char) : Except Fault (Value × List Char) :=
  match words.find? fun (word, _) => word.toList.isPrefixOf text with
  | some (word, value) => .ok (value, text.drop word.length)
  | none => readNumber text

/-- The items of a list after its bracket and the blanks behind that. -/
def readItems (readItem : List Char → Except Fault (Value × List Char)) :
    (fuel : Nat) → List Char → Except Fault (List Value × List Char)
  | 0, text => stop .noValue text
  | fuel + 1, text => do
    let (item, rest) ← readItem text
    match skipGap rest with
    | ']' :: rest => return ([item], rest)
    | ',' :: rest =>
      let (items, rest) ← readItems readItem fuel (skipGap rest)
      return (item :: items, rest)
    | rest => stop .noComma rest

/-- The members of an object after its brace and the blanks behind that. -/
def readMembers (readItem : List Char → Except Fault (Value × List Char)) :
    (fuel : Nat) → List Char → Except Fault (List (String × Value) × List Char)
  | 0, text => stop .noKey text
  | fuel + 1, text =>
    match text with
    | '"' :: rest => do
      let (key, rest) ← readText rest
      match skipGap rest with
      | ':' :: rest =>
        let (item, rest) ← readItem (skipGap rest)
        match skipGap rest with
        | '\x7d' :: rest => return ([(key, item)], rest)
        | ',' :: rest =>
          let (members, rest) ← readMembers readItem fuel (skipGap rest)
          return ((key, item) :: members, rest)
        | rest => stop .noComma rest
      | rest => stop .noColon rest
    | _ => stop .noKey text

/-- A value that has at most `depth` levels of lists and objects. -/
def readValue : (depth : Nat) → List Char → Except Fault (Value × List Char)
  | 0, text => stop .noValue text
  | depth + 1, text =>
    match text with
    | '"' :: rest => do
      let (text, rest) ← readText rest
      return (.text text, rest)
    | '[' :: rest =>
      match skipGap rest with
      | ']' :: rest => .ok (.list [], rest)
      | rest => do
        let (items, rest) ← readItems (readValue depth) (rest.length + 1) rest
        return (.list items, rest)
    | '\x7b' :: rest =>
      match skipGap rest with
      | '\x7d' :: rest => .ok (.object [], rest)
      | rest => do
        let (members, rest) ← readMembers (readValue depth) (rest.length + 1) rest
        return (Value.ofMembers members, rest)
    | _ => readPlain text

/-- The value of a document. -/
def read (document : List Char) : Except Fault Value := do
  if document.head? = some '\uFEFF' then stop .byteOrderMark document
  else
    let (value, rest) ← readValue (document.length + 1) (skipGap document)
    match skipGap rest with
    | [] => return value
    | rest => stop .extraData rest

end Patternwright.Json
