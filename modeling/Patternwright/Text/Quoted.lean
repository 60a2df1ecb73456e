import Patternwright.Unicode.Printable

/-!
# Quoted text

The form in which messages and logs show a text: between quotes, on one line, every character that
cannot be shown as it is written as an escape. The quote is `'`, unless the text holds a `'` and no
`"`; then it is `"`.

## Main definitions

* `Text.quoted` — a text in quotes
* `Text.hex` — a number in a fixed count of hexadecimal digits
-/

namespace Patternwright.Text

/-- The last `width` hexadecimal digits of a number, in lower case. -/
def hex : (width : Nat) → Nat → List Char
  | 0, _ => []
  | width + 1, n => hex width (n / 16) ++ [(n % 16).digitChar]

/-- One character of a quoted text. Controls and other characters that cannot be shown take the
shortest of the three numeric escapes that fits their code. -/
def quotedChar (quote c : Char) : List Char :=
  if c = quote ∨ c = '\\' then ['\\', c]
  else if c = '\t' then ['\\', 't']
  else if c = '\n' then ['\\', 'n']
  else if c = '\r' then ['\\', 'r']
  else if Unicode.isPrintable c.toNat then [c]
  else if c.toNat < 0x100 then '\\' :: 'x' :: hex 2 c.toNat
  else if c.toNat < 0x10000 then '\\' :: 'u' :: hex 4 c.toNat
  else '\\' :: 'U' :: hex 8 c.toNat

/-- The quote character for a text. -/
def quoteFor (text : List Char) : Char :=
  if text.contains '\'' && !text.contains '"' then '"' else '\''

/-- A text in quotes. -/
def quoted (text : String) : String :=
  let quote := quoteFor text.toList
  String.ofList (quote :: (text.toList.flatMap (quotedChar quote) ++ [quote]))

end Patternwright.Text
