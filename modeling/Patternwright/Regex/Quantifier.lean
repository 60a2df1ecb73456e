import Patternwright.Number.Numeral
import Patternwright.Regex.Escape

/-!
# Reading quantifiers

A quantifier is `?`, `*`, `+` or a pair of counts in braces, either of which may be missing; a `?`
after it makes it lazy and a `+` possessive. Braces that hold anything but counts are ordinary
characters.

## Main definitions

* `Bounds` — the least and greatest count
* `readBounds?` — counts in braces
* `readGreed` — the sign after a quantifier
-/

namespace Patternwright.Regex

/-- How often something is repeated; `none` is without upper bound. -/
structure Bounds where
  least : Nat
  most : Option Nat
  deriving DecidableEq, Repr

/-- Counts in braces stay below this number. -/
def countLimit : Nat := 4294967295

/-- A count in digits; it has to be below the limit. -/
def readCount (digits : List Char) : Reading Nat :=
  if Numeral.digitLimit < digits.length then .error { cause := .countTooLong digits.length }
  else
    let count := Digit.numberOf 10 digits
    if count < countLimit then .ok count else .error { cause := .countTooLarge }

/-- The count that some digits give; no digits give none. -/
def readCount? (digits : List Char) : Reading (Option Nat) :=
  if digits.isEmpty then .ok none else (readCount digits).map some

/-- The counts in braces, after the opening brace; nothing if the braces are ordinary characters. -/
def readBounds? (rest : List Token) : Reading (Option (Bounds × List Token)) := do
  let here := left rest
  if rest.head? = some (.plain '}') then return none
  let (low, afterLow) := takeChars Char.isDigit rest.length rest
  settle afterLow
  let (high, afterHigh) ←
    match afterLow with
    | .plain ',' :: afterComma => do
      settle afterComma
      let (high, afterHigh) := takeChars Char.isDigit afterComma.length afterComma
      settle afterHigh
      pure (high, afterHigh)
    | _ => pure (low, afterLow)
  match afterHigh with
  | .plain '}' :: after =>
    settle after
    let least := (← readCount? low).getD 0
    let most ← readCount? high
    if most.any (· < least) then stop .leastAboveMost here
    return some (⟨least, most⟩, after)
  | _ => return none

/-- The sign after a quantifier. -/
def readGreed (rest : List Token) : Reading (Greed × List Token) :=
  match rest with
  | .plain '?' :: rest => do
    settle rest
    return (.lazy, rest)
  | .plain '+' :: rest => do
    settle rest
    return (.possessive, rest)
  | rest => .ok (.greedy, rest)

end Patternwright.Regex
