import Patternwright.Number.Binary64
import Patternwright.Number.Numeral
import Patternwright.Text.Quoted

/-!
# Values

The values that a configuration holds, as they come from a document: nothing, truth values, numbers,
texts, lists and objects. Options do not insist on a kind; what matters about a value is whether it
is *truthy*, what it looks like in a pattern, and whether it equals another one. Truth values count
as the numbers zero and one.

## Main definitions

* `Value` — the values
* `Value.isTruthy`, `Value.kindName`, `Value.isSame`
* `Value.shown`, `Value.quoted` — a value as text, and as it stands inside another one
* `Value.isWritable` — no integer in a value is too long to be written
-/

namespace Patternwright

/-- A value of a configuration. Objects keep the order of their members, and no two members have
the same key. -/
inductive Value where
  | null
  | bool (b : Bool)
  | int (n : Int)
  | real (x : Binary64)
  | text (s : String)
  | list (items : List Value)
  | object (members : List (String × Value))
  deriving Repr

namespace Value

instance : Inhabited Value := ⟨null⟩

/-- Nothing, zero and empty values are not truthy; all others are. -/
def isTruthy : Value → Bool
  | null => false
  | bool b => b
  | int n => n != 0
  | real x => !x.isZero
  | text s => !s.isEmpty
  | list items => !items.isEmpty
  | object members => !members.isEmpty

/-- The name of a value's kind in messages. -/
def kindName : Value → String
  | null => "NoneType"
  | bool _ => "bool"
  | int _ => "int"
  | real _ => "float"
  | text _ => "str"
  | list _ => "list"
  | object _ => "dict"

/-- The number that a value counts as. -/
def number? : Value → Option Rat
  | bool b => some (if b then 1 else 0)
  | int n => some n
  | real x => x.toRat?
  | _ => none

/-- The value that a number without a rational counterpart is compared by. -/
def unbounded? : Value → Option Bool
  | real (.infinite negative) => some negative
  | _ => none

mutual

/-- Two values are equal: numbers by their value, lists item by item, objects key by key in any
order. -/
def isSame : Value → Value → Bool
  | list items, list others => areSame items others
  | object members, object others =>
    members.length == others.length && membersSame members others
  | null, null => true
  | text s, text t => s == t
  | v, w =>
    match v.number?, w.number? with
    | some m, some n => m == n
    | _, _ =>
      match v.unbounded?, w.unbounded? with
      | some m, some n => m == n
      | _, _ => false

/-- Two lists are equal item by item. -/
def areSame : List Value → List Value → Bool
  | [], [] => true
  | v :: items, w :: others => v.isSame w && areSame items others
  | _, _ => false

/-- Every member has an equal value under its key in the other object. -/
def membersSame : List (String × Value) → List (String × Value) → Bool
  | [], _ => true
  | (key, v) :: members, others =>
    (others.lookup key).any v.isSame && membersSame members others

end

/-- A truth value as text. -/
def boolText (b : Bool) : String := if b then "True" else "False"

mutual

/-- A value as it stands inside another one: texts are in quotes. -/
def quoted : Value → String
  | null => "None"
  | bool b => boolText b
  | int n => toString n
  | real x => x.toText
  | text s => Text.quoted s
  | list items => "[" ++ ", ".intercalate (quotedItems items) ++ "]"
  | object members => "\x7b" ++ ", ".intercalate (quotedMembers members) ++ "\x7d"

/-- The items of a list. -/
def quotedItems : List Value → List String
  | [] => []
  | v :: items => v.quoted :: quotedItems items

/-- The members of an object, each with its key. -/
def quotedMembers : List (String × Value) → List String
  | [] => []
  | (key, v) :: members => (Text.quoted key ++ ": " ++ v.quoted) :: quotedMembers members

end

/-- A value as text, however long its integers are. -/
def shown : Value → String
  | text s => s
  | v => v.quoted

mutual

/-- No integer in a value is too long to be written. -/
def isWritable : Value → Bool
  | int n => Numeral.isWritable n
  | list items => areWritable items
  | object members => membersWritable members
  | _ => true

/-- All items of a list can be written. -/
def areWritable : List Value → Bool
  | [] => true
  | v :: items => v.isWritable && areWritable items

/-- All members of an object can be written. -/
def membersWritable : List (String × Value) → Bool
  | [] => true
  | (_, v) :: members => v.isWritable && membersWritable members

end

end Value

/-- The members of an object with one more: a key that is there already keeps its place and takes
the new value. -/
def insertMember (key : String) (value : Value) :
    List (String × Value) → List (String × Value)
  | [] => [(key, value)]
  | (k, v) :: members =>
    if k = key then (key, value) :: members else (k, v) :: insertMember key value members

/-- The object with given members; of members with the same key the first gives the place and the
last the value. -/
def Value.ofMembers (members : List (String × Value)) : Value :=
  .object (members.foldl (fun object (key, value) => insertMember key value object) [])

end Patternwright
