import Patternwright.Value

/-!
# Writing JSON

Documents are written for people: every item and member on a line of its own, two more spaces for
each level, the members of an object in the order of their keys. All of it is ASCII; other
characters are code escapes, those beyond the basic plane two of them.

## Main definitions

* `Json.quoteChars` — a text in quotes
* `Json.write` — a document
-/

namespace Patternwright.Json

/-- A code escape. -/
def codeEscape (code : Nat) : List Char := '\\' :: 'u' :: Text.hex 4 code

/-- One character of a text. -/
def quoteChar (c : Char) : List Char :=
  if c = '"' ∨ c = '\\' then ['\\', c]
  else if c = '\n' then ['\\', 'n']
  else if c = '\r' then ['\\', 'r']
  else if c = '\t' then ['\\', 't']
  else if c = '\x0c' then ['\\', 'f']
  else if c = '\x08' then ['\\', 'b']
  else if ' ' ≤ c ∧ c ≤ '~' then [c]
  else if c.toNat < 0x10000 then codeEscape c.toNat
  else
    codeEscape (0xD800 + (c.toNat - 0x10000) / 0x400) ++
      codeEscape (0xDC00 + (c.toNat - 0x10000) % 0x400)

/-- A text in quotes. -/
def quoteChars (text : String) : List Char := '"' :: (text.toList.flatMap quoteChar ++ ['"'])

/-- A number in decimal digits. -/
def intChars (n : Int) : List Char :=
  if n < 0 then '-' :: Nat.toDigits 10 n.natAbs else Nat.toDigits 10 n.natAbs

/-- A number with a fractional part. -/
def realChars : Binary64 → List Char
  | .notANumber => "NaN".toList
  | .infinite negative => if negative then "-Infinity".toList else "Infinity".toList
  | x => x.toText.toList

/-- A line break, and the spaces for a level. -/
def newline (level : Nat) : List Char := '\n' :: List.replicate (2 * level) ' '

/-- Parts on lines of their own between two brackets, or the two brackets alone. -/
def enclose (opening closing : Char) (level : Nat) (parts : List (List Char)) : List Char :=
  match parts with
  | [] => [opening, closing]
  | parts =>
    opening :: newline (level + 1) ++ List.intercalate (',' :: newline (level + 1)) parts ++
      newline level ++ [closing]

/-- Members in the order of their keys. -/
def sortByKey {α : Type} (members : List (String × α)) : List (String × α) :=
  members.mergeSort fun m n => decide (m.1 ≤ n.1)

mutual

/-- A value at a level. -/
def writeAt (level : Nat) : Value → List Char
  | .null => "null".toList
  | .bool b => if b then "true".toList else "false".toList
  | .int n => intChars n
  | .real x => realChars x
  | .text s => quoteChars s
  | .list items => enclose '[' ']' level (writeItems (level + 1) items)
  | .object members =>
    let parts := (sortByKey (writeMembers (level + 1) members)).map fun (key, text) =>
      quoteChars key ++ ':' :: ' ' :: text
    enclose '\x7b' '\x7d' level parts

/-- The items of a list, each at a level. -/
def writeItems (level : Nat) : List Value → List (List Char)
  | [] => []
  | v :: items => writeAt level v :: writeItems level items

/-- The keys of an object with the text of their values at a level. -/
def writeMembers (level : Nat) : List (String × Value) → List (String × List Char)
  | [] => []
  | (key, v) :: members => (key, writeAt level v) :: writeMembers level members

end

/-- The document of a value. -/
def write (value : Value) : String := String.ofList (writeAt 0 value)

end Patternwright.Json
