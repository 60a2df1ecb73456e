import Patternwright.Number.Digit
import Patternwright.Unicode.Blank
import Patternwright.Unicode.Decimal

/-!
# Integer numerals

The written form of an integer as people type it: blanks around it, one sign, decimal digits of any
script, single low lines between digits. A numeral has at most `digitLimit` digits, and an integer
that would need more of them is neither read nor written.

## Main definitions

* `Numeral.isWritable` — an integer has a numeral
* `Numeral.readInt?` — the integer that a numeral stands for
-/

namespace Patternwright.Numeral

/-- The most digits that a numeral may have. -/
def digitLimit : Nat := 4300

/-- An integer does not need more digits than a numeral may have; the sign does not count. -/
def isWritable (n : Int) : Bool := (Nat.toDigits 10 n.natAbs).length ≤ digitLimit

/-- A blank around a numeral; the information separators do not count. -/
def isMargin (c : Char) : Bool :=
  c == ' ' || (0x09 ≤ c.toNat && c.toNat ≤ 0x0D) || (0x80 ≤ c.toNat && Unicode.isBlank c.toNat)

/-- The digits of a numeral without its sign; a low line stands between two digits. -/
def readDigits? : List Char → Option (List Nat)
  | [] => none
  | [c] => (Unicode.decimalValue? c.toNat).map ([·])
  | c :: '_' :: rest => do
    let digit ← Unicode.decimalValue? c.toNat
    return digit :: (← readDigits? rest)
  | c :: rest => do
    let digit ← Unicode.decimalValue? c.toNat
    return digit :: (← readDigits? rest)

/-- The text without the blanks around it. -/
def trimMargins (text : List Char) : List Char :=
  ((text.dropWhile isMargin).reverse.dropWhile isMargin).reverse

/-- The number that an unsigned numeral stands for. -/
def readNat? (text : List Char) : Option Nat := do
  let digits ← readDigits? text
  if digits.length ≤ digitLimit then some (Digit.number 10 digits) else none

/-- The integer that a numeral stands for. -/
def readInt? (text : List Char) : Option Int :=
  match trimMargins text with
  | '-' :: rest => (readNat? rest).map fun n => -(n : Int)
  | '+' :: rest => (readNat? rest).map Int.ofNat
  | rest => (readNat? rest).map Int.ofNat

end Patternwright.Numeral
