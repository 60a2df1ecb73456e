import Patternwright.Text.Replace
import Patternwright.Value.Elements

/-!
# Date and time formats

A format is a text with tokens such as `YYYY`. Each token stands for the numbers that it can be; all
else in a format is part of the pattern as it is.

## Main definitions

* `Format.dateTokens`, `Format.timeTokens` — the tokens and their fragments
* `Format.translate` — a format with its tokens replaced
* `Format.dateFragment`, `Format.timeFragment` — the pattern of a format that may be missing
-/

namespace Patternwright.Format

/-- A token and the fragment that it stands for. -/
abbrev Token := String × String

/-- The tokens of a date. -/
def dateTokens : List Token := [
  ("YYYY", "\\d\x7b4\x7d"), ("MM", "(?:0[1-9]|1[0-2])"), ("DD", "(?:0[1-9]|[12]\\d|3[01])")]

/-- The tokens of a time. -/
def timeTokens : List Token := [
  ("HH", "(?:[01]\\d|2[0-3])"), ("mm", "[0-5]\\d"), ("ss", "[0-5]\\d")]

/-- The fragment of a date without a format. -/
def defaultDate : String := "\\d\x7b4\x7d-\\d\x7b2\x7d-\\d\x7b2\x7d"

/-- The fragment of a time without a format. -/
def defaultTime : String := "\\d\x7b2\x7d:\\d\x7b2\x7d:\\d\x7b2\x7d"

/-- A format with its tokens replaced. A format that is no text has no tokens to replace. -/
def translate (format : Value) (tokens : List Token) : Except Error Value :=
  match format, tokens with
  | .text s, _ => .ok (.text (Text.replaceEach tokens s))
  | v, [] => .ok v
  | v, _ => .error (.formatNotText v.kindName)

/-- The fragment of a format, or the default one if there is none. -/
def fragment (tokens : List Token) (default : String) : Value → Except Error String
  | .null => .ok default
  | .text s => .ok (Text.replaceEach tokens s)
  | v => .error (.formatNotText v.kindName)

/-- The fragment of a date format. -/
def dateFragment : Value → Except Error String := fragment dateTokens defaultDate

/-- The fragment of a time format. -/
def timeFragment : Value → Except Error String := fragment timeTokens defaultTime

end Patternwright.Format
