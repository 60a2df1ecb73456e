import Patternwright.Shape.Basic

/-!
# Fields of a configuration

A configuration has fields with one value and fields with a list of values. Each has a name, and
most also have an alias that documents may use.

## Main definitions

* `Scalar`, `ListField`, `Field` — the fields
* `Field.all` — all fields in their order
* `Field.name`, `Field.documentKey?`, `Field.ofName?`, `Field.ofKey?` — their names
-/

namespace Patternwright

/-- A field with one value. -/
inductive Scalar where
  | digits
  | letters
  | whitespace
  | special
  | arabic
  | caseInsensitive
  | multiLine
  | dotAll
  /-- The pattern that takes the place of the one built from the other fields. -/
  | custom
  /-- The text has the given shape. -/
  | shape (shape : Shape)
  | minLength
  | maxLength
  | exactRepetitions
  | minRepetitions
  | maxRepetitions
  /-- What the text begins with. -/
  | opening
  /-- What the text ends with. -/
  | closing
  | dateFormat
  | timeFormat
  deriving DecidableEq, Repr

/-- A field with a list of values. -/
inductive ListField where
  | mustContain
  | mustNotContain
  | allowedWords
  | disallowedWords
  | cardBrands
  deriving DecidableEq, Repr

/-- All fields with a list of values, in the order in which they are checked. -/
def ListField.all : List ListField :=
  [mustContain, mustNotContain, allowedWords, disallowedWords, cardBrands]

/-- A field of a configuration. -/
inductive Field where
  | scalar (field : Scalar)
  | list (field : ListField)
  deriving DecidableEq, Repr

namespace Scalar

/-- The name of a field. -/
def name : Scalar → String
  | digits => "include_digits"
  | letters => "include_letters"
  | whitespace => "include_whitespace"
  | special => "include_special"
  | arabic => "include_arabic"
  | caseInsensitive => "case_insensitive"
  | multiLine => "multi_line"
  | dotAll => "dot_all"
  | custom => "custom_pattern"
  | shape s => "is_" ++ s.name
  | minLength => "min_length"
  | maxLength => "max_length"
  | exactRepetitions => "exact_repetitions"
  | minRepetitions => "min_repetitions"
  | maxRepetitions => "max_repetitions"
  | opening => "prefix"
  | closing => "suffix"
  | dateFormat => "date_format"
  | timeFormat => "time_format"

/-- The alias of a field in documents. -/
def documentKey? : Scalar → Option String
  | digits => some "supportNumbers"
  | letters => some "supportLetters"
  | whitespace => some "supportWhitespace"
  | special => some "supportSpecialChars"
  | arabic => some "supportArabic"
  | caseInsensitive => some "caseInsensitive"
  | multiLine => some "multiLine"
  | dotAll => some "dotAll"
  | custom => some "customPattern"
  | shape .email => some "isEmail"
  | shape .url => some "isUrl"
  | shape .phone => some "isPhoneNumber"
  | shape .ipv4 => some "isIPv4"
  | shape .ipv6 => some "isIPv6"
  | shape .hexColor => some "isHexColor"
  | shape .date => some "isDate"
  | shape .time => some "isTime"
  | shape .latitude => some "isLatitude"
  | shape .longitude => some "isLongitude"
  | shape .creditCard => some "isCreditCard"
  | minLength => some "minLength"
  | maxLength => some "maxLength"
  | exactRepetitions => some "exactRepetitions"
  | minRepetitions => some "minRepetitions"
  | maxRepetitions => some "maxRepetitions"
  | opening | closing => none
  | dateFormat => some "dateFormat"
  | timeFormat => some "timeFormat"

end Scalar

namespace ListField

/-- The name of a field. -/
def name : ListField → String
  | mustContain => "must_contain"
  | mustNotContain => "must_not_contain"
  | allowedWords => "allowed_words"
  | disallowedWords => "disallowed_words"
  | cardBrands => "supported_credit_cards"

/-- The alias of a field in documents. -/
def documentKey : ListField → String
  | mustContain => "mustContain"
  | mustNotContain => "mustNotContain"
  | allowedWords => "allowedWords"
  | disallowedWords => "disallowedWords"
  | cardBrands => "supportedCreditCards"

end ListField

namespace Field

/-- All fields, in the order in which a configuration is written. -/
def all : List Field :=
  ([.digits, .letters, .whitespace, .special, .arabic, .caseInsensitive, .multiLine, .dotAll,
      .custom].map scalar) ++
    Shape.all.map (fun shape => scalar (.shape shape)) ++
    ([.minLength, .maxLength, .exactRepetitions, .minRepetitions, .maxRepetitions, .opening,
      .closing].map scalar) ++
    ([.mustContain, .mustNotContain, .allowedWords, .disallowedWords].map list) ++
    [scalar .dateFormat, scalar .timeFormat, list .cardBrands]

/-- The name of a field. -/
def name : Field → String
  | scalar field => field.name
  | list field => field.name

/-- The alias of a field in documents. -/
def documentKey? : Field → Option String
  | scalar field => field.documentKey?
  | list field => some field.documentKey

/-- The field with a name. -/
def ofName? (name : String) : Option Field := all.find? fun field => field.name == name

/-- The field that a key of a document means. -/
def ofKey? (key : String) : Option Field :=
  match all.find? fun field => field.documentKey? == some key with
  | some field => some field
  | none => ofName? key

end Field

end Patternwright
