/-!
# Named shapes

A shape is a kind of text that has a pattern of its own. Shapes have an order: of several that are
asked for, the first one is used.

## Main definitions

* `Shape`, `Shape.all` — the shapes, and all of them in their order
* `Shape.name`, `Shape.ofName?` — their names
-/

namespace Patternwright

/-- A named kind of text. -/
inductive Shape where
  | email
  | url
  | phone
  | ipv4
  | ipv6
  | hexColor
  | date
  | time
  | latitude
  | longitude
  | creditCard
  deriving DecidableEq, Repr

namespace Shape

/-- All shapes, the one that is preferred over all others first. -/
def all : List Shape :=
  [email, url, phone, ipv4, ipv6, hexColor, date, time, latitude, longitude, creditCard]

/-- The name of a shape. -/
def name : Shape → String
  | email => "email"
  | url => "url"
  | phone => "phone"
  | ipv4 => "ipv4"
  | ipv6 => "ipv6"
  | hexColor => "hex_color"
  | date => "date"
  | time => "time"
  | latitude => "latitude"
  | longitude => "longitude"
  | creditCard => "credit_card"

/-- The shape with a name. -/
def ofName? (name : String) : Option Shape := all.find? fun shape => shape.name == name

end Shape

end Patternwright
