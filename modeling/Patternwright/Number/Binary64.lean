/-!
# Binary floating point numbers

Numbers with a fractional part are kept as the 64 bit binary numbers nearest to their decimal form.
A finite one is `mantissa · 2 ^ exponent`, with the mantissa in its standard range, so that equal
magnitudes are equal pairs. All arithmetic here is exact.

## Main definitions

* `Binary64` — the numbers
* `Binary64.ofDecimal` — the number nearest to a decimal
* `Binary64.toText` — the fewest digits that read back as the number
-/

namespace Patternwright

/-- A 64 bit binary floating point number. -/
inductive Binary64 where
  | finite (negative : Bool) (mantissa : Nat) (exponent : Int)
  | infinite (negative : Bool)
  | notANumber
  deriving DecidableEq, Repr

namespace Binary64

/-- The least exponent of a finite number. -/
def leastExponent : Int := -1074

/-- The greatest exponent of a finite number. -/
def greatestExponent : Int := 971

/-- The mantissa has fifty-three bits. -/
def mantissaEnd : Nat := 0x20000000000000

/-- The quotient nearest to `num / den`, of two equally near ones the even one. -/
def roundQuotient (num den : Nat) : Nat :=
  let quotient := num / den
  let twice := 2 * (num % den)
  if den < twice ∨ (twice = den ∧ quotient % 2 = 1) then quotient + 1 else quotient

/-- `num / den · 2 ^ -exponent`, rounded. -/
def scaled (num den : Nat) (exponent : Int) : Nat :=
  if exponent < 0 then roundQuotient (num * Nat.pow 2 (-exponent).toNat) den
  else roundQuotient num (den * Nat.pow 2 exponent.toNat)

/-- The number nearest to the positive fraction `num / den`. -/
def ofFraction (negative : Bool) (num den : Nat) : Binary64 :=
  let guess : Int := max leastExponent ((num.log2 : Int) - den.log2 - 53)
  let tight := if scaled num den guess < mantissaEnd then guess else guess + 1
  let (mantissa, exponent) :=
    if scaled num den tight < mantissaEnd then (scaled num den tight, tight)
    else (scaled num den (tight + 1), tight + 1)
  if greatestExponent < exponent then .infinite negative
  else if mantissa = 0 then .finite negative 0 leastExponent
  else .finite negative mantissa exponent

/-- Decimals with an exponent beyond this one have no finite number but zero near them. -/
def decimalRange : Int := 400

/-- The number nearest to `digits · 10 ^ exponent`. -/
def ofDecimal (negative : Bool) (digits : Nat) (exponent : Int) : Binary64 :=
  let magnitude := exponent + (Nat.toDigits 10 digits).length
  if digits = 0 ∨ magnitude < -decimalRange then .finite negative 0 leastExponent
  else if decimalRange < magnitude then .infinite negative
  else if exponent < 0 then ofFraction negative digits (Nat.pow 10 (-exponent).toNat)
  else ofFraction negative (digits * Nat.pow 10 exponent.toNat) 1

/-- The magnitude of a finite number as a fraction. -/
def fraction (mantissa : Nat) (exponent : Int) : Nat × Nat :=
  if exponent < 0 then (mantissa, Nat.pow 2 (-exponent).toNat)
  else (mantissa * Nat.pow 2 exponent.toNat, 1)

/-- The number as a rational; the infinite ones and what is not a number have none. -/
def toRat? : Binary64 → Option Rat
  | finite negative mantissa exponent =>
    let (num, den) := fraction mantissa exponent
    let magnitude := mkRat num den
    some (if negative then -magnitude else magnitude)
  | infinite _ | notANumber => none

/-- The number is zero. -/
def isZero : Binary64 → Bool
  | finite _ mantissa _ => mantissa == 0
  | infinite _ | notANumber => false

/-- The decimal exponent of the first digit of the positive fraction `num / den`, searched from a
guess upwards. -/
def leadingExponent (num den : Nat) : (fuel : Nat) → (guess : Int) → Int
  | 0, guess => guess
  | fuel + 1, guess =>
    let next := guess + 1
    let reaches := if next < 0 then den ≤ num * Nat.pow 10 (-next).toNat
      else den * Nat.pow 10 next.toNat ≤ num
    if reaches then leadingExponent num den fuel next else guess

/-- Of the two decimals next to the number on the grid `10 ^ grid`, the one that reads back as it;
of two that do, the nearer one, and of two that are equally near the even one. -/
def onGrid? (mantissa : Nat) (exponent grid : Int) : Option Nat :=
  let (num, den) := fraction mantissa exponent
  let num := if grid < 0 then num * Nat.pow 10 (-grid).toNat else num
  let den := if grid < 0 then den else den * Nat.pow 10 grid.toNat
  let low := num / den
  let readsBack (digits : Nat) : Bool :=
    ofDecimal false digits grid == .finite false mantissa exponent
  match readsBack low, readsBack (low + 1) with
  | true, true => some (roundQuotient num den)
  | true, false => some low
  | false, true => some (low + 1)
  | false, false => none

/-- The digits, without zeros at the end, and the exponent of the last one, of the shortest decimal
that reads back as a positive number. Seventeen digits are always enough. -/
def shortest (mantissa : Nat) (exponent : Int) : List Char × Int :=
  let (num, den) := fraction mantissa exponent
  let first := leadingExponent num den 700 (-330)
  let grids := (List.range 17).map fun (more : Nat) => first - (more : Int)
  match grids.findSome? fun grid => (onGrid? mantissa exponent grid).map fun n => (n, grid) with
  | none => ([], 0)
  | some (digits, grid) =>
    let text := Nat.toDigits 10 digits
    let zeros := (text.reverse.takeWhile (· == '0')).length
    (text.take (text.length - zeros), grid + (zeros : Int))

/-- Digits with the point after the first `point` of them, in positional notation. -/
def positional (digits : List Char) (point : Int) : List Char :=
  if point ≤ 0 then '0' :: '.' :: (List.replicate (-point).toNat '0' ++ digits)
  else
    let whole := digits.take point.toNat
    let zeros := List.replicate (point.toNat - digits.length) '0'
    let rest := digits.drop point.toNat
    whole ++ zeros ++ '.' :: (if rest.isEmpty then ['0'] else rest)

/-- Digits in scientific notation, the first one before the point. -/
def scientific (digits : List Char) (point : Int) : List Char :=
  let exponent := point - 1
  let places := Nat.toDigits 10 exponent.natAbs
  let mark := if exponent < 0 then '-' else '+'
  let rest := digits.drop 1
  digits.take 1 ++ (if rest.isEmpty then [] else '.' :: rest) ++
    'e' :: mark :: (List.replicate (2 - places.length) '0' ++ places)

/-- The text of a number: the fewest digits that read back, in positional notation from a ten
thousandth to below `10 ^ 16`, and always with a point or an exponent. -/
def toText : Binary64 → String
  | notANumber => "nan"
  | infinite negative => if negative then "-inf" else "inf"
  | finite negative mantissa exponent =>
    let sign := if negative then ['-'] else []
    if mantissa = 0 then String.ofList (sign ++ ['0', '.', '0'])
    else
      let (digits, last) := shortest mantissa exponent
      let point := last + digits.length
      let body := if -4 < point ∧ point ≤ 16 then positional digits point
        else scientific digits point
      String.ofList (sign ++ body)

end Binary64

end Patternwright
