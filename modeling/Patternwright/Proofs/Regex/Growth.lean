import Patternwright.Proofs.Regex.Ways

/-!
# Trees that match more than others

A tree under some options *widens to* a tree under others if the second one matches wherever the
first one does and ends at the same place. What groups have captured plays no part in that: two
states are *alike* if they are at the same place of the same text.

Larger trees widen if their parts do, as long as nothing in them looks back at a capture or keeps
only a first way. What must not follow has to widen the other way round.

## Main definitions

* `State.IsAlike` — two states at the same place of the same text
* `Node.WidensTo` — one tree matches wherever another one does

## Main results

* `Node.WidensTo.seq`, `Node.WidensTo.alt`, `Node.WidensTo.group`, `Node.WidensTo.rep`,
  `Node.WidensTo.ahead`, `Node.WidensTo.notAhead` — larger trees widen if their parts do
* `Pattern.accepts_of_widensTo` — a pattern accepts what it widens from
-/

namespace Patternwright.Regex

/-! ### Places -/

/-- Two states are at the same place of the same text, whatever their groups have captured. -/
structure State.IsAlike (s t : State) : Prop where
  before : s.before = t.before
  after : s.after = t.after

namespace State.IsAlike

variable {s t : State}

theorem symm (alike : s.IsAlike t) : t.IsAlike s := ⟨alike.before.symm, alike.after.symm⟩

theorem left (alike : s.IsAlike t) : s.left = t.left := by
  rw [s.left_eq, t.left_eq, alike.after]

theorem advance (alike : s.IsAlike t) (count : Nat) :
    (s.advance count).IsAlike (t.advance count) :=
  ⟨by simp [State.advance, alike.before, alike.after], by simp [State.advance, alike.after]⟩

theorem holds_eq (alike : s.IsAlike t) (options : Options) (place : Anchor) :
    place.holds options s = place.holds options t := by
  cases place <;> simp [Anchor.holds, alike.before, alike.after]

end State.IsAlike

/-- Every state of the first list has one like it in the second. -/
def Covers (states others : List State) : Prop := ∀ t ∈ states, ∃ u ∈ others, t.IsAlike u

namespace Covers

variable {states others more moreOthers : List State} {s t : State}

theorem nil : Covers [] others := fun _ member => (List.not_mem_nil member).elim

theorem singleton (alike : s.IsAlike t) : Covers [s] [t] := by
  intro u member
  obtain rfl := List.mem_singleton.mp member
  exact ⟨t, List.mem_singleton_self t, alike⟩

theorem append (first : Covers states others) (second : Covers more moreOthers) :
    Covers (states ++ more) (others ++ moreOthers) := by
  intro u member
  rcases List.mem_append.mp member with member | member
  · obtain ⟨v, there, alike⟩ := first u member
    exact ⟨v, List.mem_append_left _ there, alike⟩
  · obtain ⟨v, there, alike⟩ := second u member
    exact ⟨v, List.mem_append_right _ there, alike⟩

theorem flatMap (covers : Covers states others) {next nextOther : State → List State}
    (later : ∀ u v, u.IsAlike v → Covers (next u) (nextOther v)) :
    Covers (states.flatMap next) (others.flatMap nextOther) := by
  intro x member
  obtain ⟨u, reached, last⟩ := List.mem_flatMap.mp member
  obtain ⟨v, reachedOther, alike⟩ := covers u reached
  obtain ⟨y, lastOther, alikeLast⟩ := later u v alike x last
  exact ⟨y, List.mem_flatMap.mpr ⟨v, reachedOther, lastOther⟩, alikeLast⟩

theorem exists_head? (covers : Covers states others) {u : State} (found : states.head? = some u) :
    ∃ v, others.head? = some v := by
  obtain ⟨v, member, -⟩ := covers u (List.mem_of_head? found)
  exact Option.isSome_iff_exists.mp (List.isSome_head?.mpr (List.ne_nil_of_mem member))

end Covers

/-! ### Repetitions -/

section Repetitions

variable {ways others : State → List State}
  (covers : ∀ s t, s.IsAlike t → Covers (ways s) (others t))

include covers

theorem covers_repeatWays (count : Nat) : ∀ s t : State, s.IsAlike t →
    Covers (repeatWays ways count s) (repeatWays others count t) := by
  induction count with
  | zero => exact fun _ _ => .singleton
  | succ count ih => exact fun s t alike => (covers s t alike).flatMap ih

theorem covers_greedyWays (most : Option Nat) (s t : State) (alike : s.IsAlike t) :
    Covers (greedyWays ways most s) (greedyWays others most t) := by
  -- States that are alike have as much left, so both repetitions go on or both stop.
  induction remaining : s.left using Nat.strongRecOn generalizing s t most with
  | _ _ ih =>
    subst remaining
    rw [greedyWays, greedyWays.eq_def others]
    split
    · exact .singleton alike
    · refine ((covers s t alike).flatMap fun u v alikeNext => ?_).append (.singleton alike)
      rw [← alikeNext.left, ← alike.left]
      split
      · next closer => exact ih u.left closer _ u v alikeNext rfl
      · exact .singleton alikeNext

end Repetitions

/-! ### Trees -/

namespace Node

/-- Wherever the first tree matches under the first options, the second one matches under the second
options and ends at the same place. -/
def WidensTo (node : Node) (options : Options) (other : Node) (wider : Options) : Prop :=
  ∀ s t : State, s.IsAlike t → Covers (node.ways options s) (other.ways wider t)

namespace WidensTo

variable {options wider : Options}

theorem empty : Node.empty.WidensTo options .empty wider := fun _ _ => .singleton

theorem char {test other : CharTest}
    (accepts : ∀ c, test.accepts options c = true → other.accepts wider c = true) :
    (Node.char test).WidensTo options (.char other) wider := by
  intro s t alike
  simp only [ways, ← alike.after]
  cases s.after with
  | nil => exact .nil
  | cons c rest =>
    dsimp only
    split
    · next accepted =>
      rw [if_pos (accepts c accepted)]
      exact .singleton (alike.advance 1)
    · exact .nil

theorem anchor {place : Anchor}
    (holds : ∀ s, place.holds options s = true → place.holds wider s = true) :
    (Node.anchor place).WidensTo options (.anchor place) wider := by
  intro s t alike
  simp only [ways, ← alike.holds_eq]
  split
  · next held =>
    rw [if_pos (holds s held)]
    exact .singleton alike
  · exact .nil

variable {first second node otherFirst otherSecond other : Node}

theorem seq (widens : first.WidensTo options otherFirst wider)
    (later : second.WidensTo options otherSecond wider) :
    (Node.seq first second).WidensTo options (.seq otherFirst otherSecond) wider :=
  fun s t alike => (widens s t alike).flatMap later

theorem alt (widens : first.WidensTo options otherFirst wider)
    (later : second.WidensTo options otherSecond wider) :
    (Node.alt first second).WidensTo options (.alt otherFirst otherSecond) wider :=
  fun s t alike => (widens s t alike).append (later s t alike)

/-- Groups may have different numbers, since nothing looks back at them. -/
theorem group (widens : node.WidensTo options other wider) (index otherIndex : Nat) :
    (Node.group index node).WidensTo options (.group otherIndex other) wider := by
  intro s t alike u member
  obtain ⟨v, reached, rfl⟩ := List.mem_map.mp member
  have entered : (s.enter index).IsAlike (t.enter otherIndex) := ⟨alike.before, alike.after⟩
  obtain ⟨w, reachedOther, alikeLast⟩ := widens _ _ entered v reached
  exact ⟨w.leave otherIndex, List.mem_map.mpr ⟨w, reachedOther, rfl⟩,
    alikeLast.before, alikeLast.after⟩

theorem rep (widens : node.WidensTo options other wider) (least : Nat) (most : Option Nat) :
    (Node.rep .greedy least most node).WidensTo options (.rep .greedy least most other) wider :=
  fun s t alike => (covers_repeatWays widens least s t alike).flatMap
    (covers_greedyWays widens _)

theorem ahead (widens : node.WidensTo options other wider) :
    (Node.ahead false node).WidensTo options (.ahead false other) wider := by
  intro s t alike
  simp only [ways]
  cases found : (node.ways options s).head? with
  | none => exact .nil
  | some u =>
    obtain ⟨v, there⟩ := (widens s t alike).exists_head? found
    rw [there]
    exact .singleton ⟨alike.before, alike.after⟩

/-- What must not follow widens the other way round. -/
theorem notAhead (widens : other.WidensTo wider node options) :
    (Node.ahead true node).WidensTo options (.ahead true other) wider := by
  intro s t alike
  simp only [ways]
  cases found : (other.ways wider t).head? with
  | none => cases (node.ways options s).head? <;> simp [Covers.nil, Covers.singleton alike]
  | some v =>
    obtain ⟨u, there⟩ := (widens t s alike.symm).exists_head? found
    rw [there]
    exact .nil

/-! ### Rows and alternatives -/

theorem sequence (row : List Node) (widens : ∀ part ∈ row, part.WidensTo options part wider) :
    (Node.sequence row).WidensTo options (.sequence row) wider := by
  induction row with
  | nil => exact empty
  | cons node row ih =>
    obtain ⟨here, later⟩ := List.forall_mem_cons.mp widens
    cases row with
    | nil => exact here
    | cons next row => exact here.seq (ih later)

theorem anyOf (alternatives : List Node)
    (widens : ∀ part ∈ alternatives, part.WidensTo options part wider) :
    (Node.anyOf alternatives).WidensTo options (.anyOf alternatives) wider := by
  cases alternatives with
  | nil => exact empty
  | cons first alternatives =>
    rw [Node.anyOf]
    induction alternatives generalizing first with
    | nil => exact widens first (List.mem_singleton_self first)
    | cons next alternatives ih =>
      obtain ⟨here, later⟩ := List.forall_mem_cons.mp widens
      exact here.alt (ih next later)

end WidensTo

end Node

/-! ### Patterns -/

/-- A pattern accepts every text that a pattern it widens from does, if the search passes over no
place. -/
theorem Pattern.accepts_of_widensTo {pattern other : Pattern}
    (widens : pattern.node.WidensTo pattern.options other.node other.options)
    (tries : ∀ c?, other.triesAt c? = true) {text : String}
    (accepted : pattern.accepts text = true) : other.accepts text = true := by
  obtain ⟨passed, rest, split, -, t, reached⟩ := (accepts_iff pattern text).mp accepted
  have alike : (State.fresh passed.reverse rest pattern.groupCount).IsAlike
      (.fresh passed.reverse rest other.groupCount) := ⟨rfl, rfl⟩
  obtain ⟨u, reachedOther, -⟩ := widens _ _ alike t reached
  exact (accepts_iff other text).mpr ⟨passed, rest, split, tries _, u, reachedOther⟩

end Patternwright.Regex
