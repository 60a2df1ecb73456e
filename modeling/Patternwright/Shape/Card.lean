import Patternwright.Value.Elements

/-!
# Credit cards

Card numbers have a pattern for each brand. A filter names the brands that are wanted; names of no
brand are skipped, and a filter without any name stands for all brands.

## Main definitions

* `CardBrand`, `CardBrand.all` — the brands
* `CardBrand.name`, `CardBrand.pattern` — their names and patterns
* `CardBrand.selected` — the brands of a filter
* `CardBrand.filterPattern` — the pattern of a filter
-/

namespace Patternwright

/-- A brand of cards. -/
inductive CardBrand where
  | visa
  | mastercard
  | amex
  | discover
  | jcb
  | dinersClub
  | enRoute
  | unionPay
  deriving DecidableEq, Repr

namespace CardBrand

/-- All brands. -/
def all : List CardBrand :=
  [visa, mastercard, amex, discover, jcb, dinersClub, enRoute, unionPay]

/-- The name of a brand. -/
def name : CardBrand → String
  | visa => "visa"
  | mastercard => "mastercard"
  | amex => "amex"
  | discover => "discover"
  | jcb => "jcb"
  | dinersClub => "dinersclub"
  | enRoute => "enroute"
  | unionPay => "unionpay"

/-- The pattern of the numbers of a brand. -/
def pattern : CardBrand → String
  | visa => "^4[0-9]\x7b12\x7d(?:[0-9]\x7b3\x7d)?$"
  | mastercard => "^5[1-5][0-9]\x7b14\x7d$"
  | amex => "^3[47][0-9]\x7b13\x7d$"
  | discover => "^6(?:011|5[0-9]\x7b2\x7d)[0-9]\x7b12\x7d$"
  | jcb => "^(?:2131|1800|35\\d\x7b3\x7d)\\d\x7b11\x7d$"
  | dinersClub => "^3(?:0[0-5]|[68][0-9])\\d\x7b11\x7d$"
  | enRoute => "^2(014|149)\\d\x7b11\x7d$"
  | unionPay => "^62[0-9]\x7b14,17\x7d$"

/-- The brand with a name. -/
def ofName? (name : String) : Option CardBrand := all.find? fun brand => brand.name == name

/-- The brand that an entry of a filter names. A list or an object cannot even be looked up. -/
def ofValue? : Value → Except Error (Option CardBrand)
  | .text s => .ok (ofName? s)
  | .list items => .error (.brandNotKey (Value.list items).kindName)
  | .object members => .error (.brandNotKey (Value.object members).kindName)
  | _ => .ok none

/-- The brands that entries of a filter name, each at its first entry. -/
def selected (entries : List Value) : Except Error (List CardBrand) := do
  return (← entries.mapM ofValue?).foldl
    (fun brands found? =>
      match found? with
      | some brand => if brands.contains brand then brands else brands ++ [brand]
      | none => brands) []

/-- The pattern that the numbers of some brands match. -/
def anyOf (brands : List CardBrand) : String := "|".intercalate (brands.map pattern)

/-- The pattern of a filter. -/
def filterPattern (filter : Value) : Except Error String := do
  if filter.isTruthy then return anyOf (← selected (← filter.elements))
  else return anyOf all

/-- The entries of a filter that are skipped, up to one that cannot be looked up. -/
def skipped (entries : List Value) : List Value :=
  (entries.takeWhile fun entry => (ofValue? entry).toOption.isSome).filter fun entry =>
    match ofValue? entry with
    | .ok none => true
    | _ => false

end CardBrand

end Patternwright
