import Patternwright.Regex.Node

/-!
# States of a match

A match moves through a text from left to right. Its state is the text on both sides and what each
group has captured so far: the places where the group was last entered and last left. A place is
given by the count of characters that are left from there on.

## Main definitions

* `Regex.Span` — the places of a group
* `Regex.State` — a place in a text, with the groups
* `State.captured?` — the text that a group has captured
-/

namespace Patternwright.Regex

/-- Where a group was last entered and last left, in characters left from there. -/
structure Span where
  start? : Option Nat := none
  stop? : Option Nat := none
  deriving DecidableEq, Repr

/-- A place in a text, with what the groups have captured on the way there. -/
structure State where
  /-- The text before the place, nearest character first. -/
  before : List Char
  after : List Char
  /-- The count of characters after the place, kept at hand for comparing places. -/
  left : Nat
  groups : List Span
  left_eq : left = after.length
  deriving DecidableEq, Repr

namespace State

/-- A place in a text at which no group has captured anything. -/
def fresh (before after : List Char) (groupCount : Nat) : State :=
  ⟨before, after, after.length, List.replicate groupCount {}, rfl⟩

/-- The state `count` characters further on. -/
def advance (s : State) (count : Nat) : State where
  before := (s.after.take count).reverse ++ s.before
  after := s.after.drop count
  left := s.left - count
  groups := s.groups
  left_eq := by simp [s.left_eq]

/-- The state `count` characters back. -/
def retreat (s : State) (count : Nat) : State where
  before := s.before.drop count
  after := (s.before.take count).reverse ++ s.after
  left := (s.before.take count).length + s.left
  groups := s.groups
  left_eq := by simp [s.left_eq]

/-- At least `count` characters are before the place. -/
def canRetreat (s : State) (count : Nat) : Bool := (s.before.take count).length == count

/-- The state after entering a group. -/
def enter (s : State) (index : Nat) : State :=
  { s with groups := s.groups.modify index fun span => { span with start? := some s.left } }

/-- The state after leaving a group. -/
def leave (s : State) (index : Nat) : State :=
  { s with groups := s.groups.modify index fun span => { span with stop? := some s.left } }

/-- The text between two places. -/
def between (s : State) (start stop : Nat) : List Char :=
  let text := s.before.reverse ++ s.after
  (text.drop (text.length - start)).take (start - stop)

/-- The text that a group has captured. A group that has been entered again after it was left has
captured something only if it was left where it is entered. -/
def captured? (s : State) (index : Nat) : Option (List Char) :=
  match s.groups[index]? with
  | some ⟨some start, some stop⟩ => if stop ≤ start then some (s.between start stop) else none
  | _ => none

end State

end Patternwright.Regex
