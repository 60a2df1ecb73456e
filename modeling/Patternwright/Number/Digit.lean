/-!
# Digits

ASCII digits in bases up to sixteen.

## Main definitions

* `Digit.value?` — the value of a hexadecimal digit
* `Digit.number`, `Digit.numberOf` — the number that digits stand for
-/

namespace Patternwright.Digit

/-- The value of a hexadecimal digit. -/
def value? (c : Char) : Option Nat :=
  if '0' ≤ c ∧ c ≤ '9' then some (c.toNat - 0x30)
  else if 'a' ≤ c ∧ c ≤ 'f' then some (c.toNat - 0x57)
  else if 'A' ≤ c ∧ c ≤ 'F' then some (c.toNat - 0x37)
  else none

/-- An octal digit. -/
def isOctal (c : Char) : Bool := '0' ≤ c && c ≤ '7'

/-- The number whose digits in a base have given values, most significant first. -/
def number (base : Nat) (values : List Nat) : Nat :=
  values.foldl (fun value digit => value * base + digit) 0

/-- The number that digits in a base stand for; all of them are digits of that base. -/
def numberOf (base : Nat) (digits : List Char) : Nat :=
  number base (digits.map fun c => (value? c).getD 0)

end Patternwright.Digit
