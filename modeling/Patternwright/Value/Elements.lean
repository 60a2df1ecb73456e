import Patternwright.Error
import Patternwright.Value

/-!
# Elements of a value

Where values are gone through one by one, a list gives its items, an object its keys and a text its
characters.

## Main definitions

* `Value.elements` — what a value consists of
-/

namespace Patternwright

/-- The elements of a value. -/
def Value.elements : Value → Except Error (List Value)
  | .list items => .ok items
  | .object members => .ok (members.map fun (key, _) => .text key)
  | .text s => .ok (s.toList.map fun c => .text c.toString)
  | v => .error (.notIterable v.kindName)

end Patternwright
