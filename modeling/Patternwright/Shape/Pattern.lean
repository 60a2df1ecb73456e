import Patternwright.Config.Basic
import Patternwright.Shape.Card
import Patternwright.Shape.Format

/-!
# Patterns of shapes

Most shapes have one pattern. That of a date or time follows a format: without one it takes the
whole text, with one it may be found inside a longer text. That of a card number follows a filter.

## Main definitions

* `Shape.fixed?` — the pattern of a shape that has just one
* `Shape.pattern` — the pattern of a shape under a configuration
* `Shape.select?` — the shape that a configuration asks for
-/

namespace Patternwright

namespace Address

/-- One to four hexadecimal digits. -/
def group : String := "[0-9a-fA-F]\x7b1,4\x7d"

/-- A group and a colon. -/
def leading : String := "(?:" ++ group ++ ":)"

/-- A colon and a group. -/
def trailing : String := "(?::" ++ group ++ ")"

/-- A number up to two hundred and fifty-five. -/
def octet : String := "(?:25[0-5]|2[0-4][0-9]|[0-1]?[0-9][0-9]?)"

/-- Four numbers with points between them. -/
def dotted : String := octet ++ "\\." ++ octet ++ "\\." ++ octet ++ "\\." ++ octet

/-- The forms of an address: all eight groups, a run of groups left out at each place that it can
have, a local one with a zone, and two that end with a dotted address. -/
def forms : List String := [
  leading ++ "\x7b7\x7d" ++ group,
  leading ++ "\x7b1,7\x7d:",
  leading ++ "\x7b1,6\x7d:" ++ group,
  leading ++ "\x7b1,5\x7d" ++ trailing ++ "\x7b1,2\x7d",
  leading ++ "\x7b1,4\x7d" ++ trailing ++ "\x7b1,3\x7d",
  leading ++ "\x7b1,3\x7d" ++ trailing ++ "\x7b1,4\x7d",
  leading ++ "\x7b1,2\x7d" ++ trailing ++ "\x7b1,5\x7d",
  group ++ trailing ++ "\x7b1,6\x7d",
  ":(?:" ++ trailing ++ "\x7b1,7\x7d|:)",
  "fe80:(?::[0-9a-fA-F]\x7b0,4\x7d)\x7b0,4\x7d%[0-9a-zA-Z]+",
  "::(?:ffff(?::0\x7b1,4\x7d)?:)?" ++ dotted,
  leading ++ "\x7b1,4\x7d:" ++ dotted]

/-- The pattern of an address. -/
def pattern : String := "^(?:" ++ "|".intercalate forms ++ ")$"

end Address

namespace Shape

/-- The pattern of a shape that has the same one under every configuration. -/
def fixed? : Shape → Option String
  | email => some "^[a-zA-Z0-9._%+-]+@[a-zA-Z0-9.-]+\\.[a-zA-Z]\x7b2,\x7d$"
  | url => some "^(https?|ftp)://[^\\s/$.?#].[^\\s]*$"
  | phone => some "^\\+?[1-9]\\d\x7b1,14\x7d$"
  | ipv4 => some "^(\\d\x7b1,3\x7d\\.)\x7b3\x7d\\d\x7b1,3\x7d$"
  | ipv6 => some Address.pattern
  | hexColor => some "^#([0-9a-fA-F]\x7b3\x7d|[0-9a-fA-F]\x7b6\x7d)$"
  | latitude => some "^[-+]?([1-8]?\\d(\\.\\d+)?|90(\\.0+)?)$"
  | longitude => some "^[-+]?((1[0-7]\\d|[1-9]\\d?)\\.\\d+|180(\\.0+)?)$"
  | date | time | creditCard => none

/-- The pattern of a format, or the default one for the whole text if there is no format. -/
def formatPattern (fragment : Value → Except Error String) (format : Value) :
    Except Error String := do
  match format with
  | .null => return "^" ++ (← fragment format) ++ "$"
  | _ => fragment format

/-- The pattern of a shape under a configuration. -/
def pattern (shape : Shape) (config : Config) : Except Error String :=
  match shape with
  | date => formatPattern Format.dateFragment (config.scalar .dateFormat)
  | time => formatPattern Format.timeFragment (config.scalar .timeFormat)
  | creditCard => CardBrand.filterPattern (config.get (.list .cardBrands))
  | shape => .ok (shape.fixed?.getD "")

/-- The first shape that a configuration asks for. -/
def select? (config : Config) : Option Shape := all.find? fun shape => config.isOn (.shape shape)

end Shape

end Patternwright
