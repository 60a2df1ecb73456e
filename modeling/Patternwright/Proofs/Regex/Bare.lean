import Patternwright.Proofs.Regex.Switches

/-!
# Trees without their groups

What a group captures matters only to something that looks back at it. A plain tree has nothing of
this kind, so it matches the same without its groups. How the groups of a plain pattern are numbered
and how many of them there are makes no difference to the texts that are accepted, and one of some
plain alternatives is found wherever it is found by itself.

## Main definitions

* `Node.Agrees` — two trees match at the same places and end at the same places
* `Node.bare` — a tree without its groups

## Main results

* `Node.agrees_bare` — a plain tree matches the same without its groups
* `Pattern.accepts_iff_of_bare` — patterns that differ in their groups accept the same texts
* `Pattern.accepts_anyOf_iff` — alternatives accept what one of them accepts
-/

namespace Patternwright.Regex

/-! ### Trees that agree -/

theorem State.IsAlike.refl (s : State) : s.IsAlike s := ⟨rfl, rfl⟩

theorem State.IsAlike.trans {s t u : State} (alike : s.IsAlike t) (later : t.IsAlike u) :
    s.IsAlike u := ⟨alike.before.trans later.before, alike.after.trans later.after⟩

theorem Node.WidensTo.trans {node middle other : Node} {options between wider : Options}
    (widens : node.WidensTo options middle between) (later : middle.WidensTo between other wider) :
    node.WidensTo options other wider := by
  intro s t alike u member
  obtain ⟨v, reached, here⟩ := widens s s (.refl s) u member
  obtain ⟨w, reachedLater, there⟩ := later s t alike v reached
  exact ⟨w, reachedLater, here.trans there⟩

/-- Under the options both trees match at the same places and end at the same places. -/
structure Node.Agrees (options : Options) (node other : Node) : Prop where
  widens : node.WidensTo options other options
  narrows : other.WidensTo options node options

namespace Node.Agrees

variable {options : Options} {node other first second otherFirst otherSecond : Node}

theorem refl_char (test : CharTest) : Agrees options (.char test) (.char test) :=
  ⟨.char fun _ => id, .char fun _ => id⟩

theorem refl_anchor (place : Anchor) : Agrees options (.anchor place) (.anchor place) :=
  ⟨.anchor fun _ => id, .anchor fun _ => id⟩

theorem symm (agrees : Agrees options node other) : Agrees options other node :=
  ⟨agrees.narrows, agrees.widens⟩

theorem trans {last : Node} (agrees : Agrees options node other)
    (later : Agrees options other last) : Agrees options node last :=
  ⟨agrees.widens.trans later.widens, later.narrows.trans agrees.narrows⟩

theorem seq (agrees : Agrees options first otherFirst)
    (later : Agrees options second otherSecond) :
    Agrees options (.seq first second) (.seq otherFirst otherSecond) :=
  ⟨agrees.widens.seq later.widens, agrees.narrows.seq later.narrows⟩

theorem alt (agrees : Agrees options first otherFirst)
    (later : Agrees options second otherSecond) :
    Agrees options (.alt first second) (.alt otherFirst otherSecond) :=
  ⟨agrees.widens.alt later.widens, agrees.narrows.alt later.narrows⟩

theorem rep (agrees : Agrees options node other) (least : Nat) (most : Option Nat) :
    Agrees options (.rep .greedy least most node) (.rep .greedy least most other) :=
  ⟨agrees.widens.rep least most, agrees.narrows.rep least most⟩

theorem ahead (agrees : Agrees options node other) :
    Agrees options (.ahead false node) (.ahead false other) :=
  ⟨agrees.widens.ahead, agrees.narrows.ahead⟩

/-- To enter a group and to leave it is to stay at the same place. -/
theorem ungroup (agrees : Agrees options node other) (index : Nat) :
    Agrees options (.group index node) other where
  widens s t alike u member := by
    obtain ⟨v, reached, rfl⟩ := List.mem_map.mp member
    have entered : (s.enter index).IsAlike t := ⟨alike.before, alike.after⟩
    obtain ⟨w, reachedOther, last⟩ := agrees.widens _ _ entered v reached
    exact ⟨w, reachedOther, last.before, last.after⟩
  narrows s t alike u member := by
    have entered : s.IsAlike (t.enter index) := ⟨alike.before, alike.after⟩
    obtain ⟨v, reached, last⟩ := agrees.narrows _ _ entered u member
    exact ⟨v.leave index, List.mem_map.mpr ⟨v, reached, rfl⟩, last.before, last.after⟩

end Node.Agrees

/-! ### Groups left out -/

/-- The tree without its groups. -/
def Node.bare : Node → Node
  | seq first second => .seq first.bare second.bare
  | alt first second => .alt first.bare second.bare
  | group _ body => body.bare
  | rep greed least most body => .rep greed least most body.bare
  | ahead negated body => .ahead negated body.bare
  | node => node

theorem Node.bare_bare (node : Node) : node.bare.bare = node.bare := by
  induction node with
  | seq first second ihFirst ihSecond | alt first second ihFirst ihSecond =>
    simp [bare, ihFirst, ihSecond]
  | group index body ih => exact ih
  | rep greed least most body ih | ahead negated body ih => simp [bare, ih]
  | _ => rfl

/-- A plain tree matches the same without its groups. -/
theorem Node.agrees_bare (options : Options) (node : Node) (plain : node.isPlain = true) :
    Agrees options node node.bare := by
  induction node with
  | empty => exact ⟨.empty, .empty⟩
  | char test => exact .refl_char test
  | seq first second ihFirst ihSecond =>
    obtain ⟨here, later⟩ := Bool.and_eq_true_iff.mp plain
    exact (ihFirst here).seq (ihSecond later)
  | alt first second ihFirst ihSecond =>
    obtain ⟨here, later⟩ := Bool.and_eq_true_iff.mp plain
    exact (ihFirst here).alt (ihSecond later)
  | group index body ih => exact (ih plain).ungroup index
  | rep greed least most body ih =>
    cases greed with
    | greedy => exact (ih plain).rep least most
    | _ => cases plain
  | ahead negated body ih =>
    cases negated with
    | false => exact (ih plain).ahead
    | true => cases plain
  | anchor place => exact .refl_anchor place
  | _ => cases plain

theorem Node.isPlain_bare (node : Node) (plain : node.isPlain = true) :
    node.bare.isPlain = true := by
  induction node with
  | seq first second ihFirst ihSecond | alt first second ihFirst ihSecond =>
    obtain ⟨here, later⟩ := Bool.and_eq_true_iff.mp plain
    exact Bool.and_eq_true_iff.mpr ⟨ihFirst here, ihSecond later⟩
  | group index body ih => exact ih plain
  | rep greed least most body ih =>
    cases greed with
    | greedy => exact ih plain
    | _ => cases plain
  | ahead negated body ih =>
    cases negated with
    | false => exact ih plain
    | true => cases plain
  | _ => exact plain

/-- A plain tree has no fault. -/
theorem Node.fault?_of_isPlain (node : Node) (plain : node.isPlain = true) :
    node.fault? false = none := by
  induction node with
  | seq first second ihFirst ihSecond | alt first second ihFirst ihSecond =>
    obtain ⟨here, later⟩ := Bool.and_eq_true_iff.mp plain
    simp [fault?, ihFirst here, ihSecond later]
  | group index body ih => exact ih plain
  | rep greed least most body ih =>
    cases greed with
    | greedy => simpa [fault?] using ih plain
    | _ => cases plain
  | ahead negated body ih =>
    cases negated with
    | false => exact ih plain
    | true => cases plain
  | empty | char _ | anchor _ => rfl
  | _ => cases plain

/-! ### Patterns -/

variable {options : Options}

/-- A way of any of some trees is a way of one of them. -/
theorem mem_ways_anyOf {nodes : List Node} (nonempty : nodes ≠ []) (s t : State) :
    t ∈ (Node.anyOf nodes).ways options s ↔ ∃ node ∈ nodes, t ∈ node.ways options s := by
  obtain ⟨first, rest, rfl⟩ := List.exists_cons_of_ne_nil nonempty
  exact mem_ways_alternatives s t rest first

namespace Pattern

/-- No place is passed over in a search for a plain tree. -/
theorem triesAt_of_isPlain {node : Node} (plain : node.isPlain = true) (groupCount : Nat)
    (c? : Option Char) : (Pattern.mk node groupCount options).triesAt c? = true := by
  rw [triesAt, Node.openingSet?_of_isPlain _ _ plain]

/-- Plain patterns that are the same without their groups accept the same texts. -/
theorem accepts_iff_of_bare {node other : Node} (plain : node.isPlain = true)
    (plainOther : other.isPlain = true) (same : node.bare = other.bare) (groupCount count : Nat)
    (text : String) :
    (Pattern.mk node groupCount options).accepts text = true ↔
      (Pattern.mk other count options).accepts text = true := by
  have agrees : Node.Agrees options node other :=
    (node.agrees_bare options plain).trans (same ▸ (other.agrees_bare options plainOther).symm)
  constructor
  · exact accepts_of_widensTo agrees.widens (triesAt_of_isPlain plainOther count)
  · exact accepts_of_widensTo agrees.narrows (triesAt_of_isPlain plain groupCount)

/-- Some plain alternatives accept the texts that one of them accepts. -/
theorem accepts_anyOf_iff {nodes : List Node} (nonempty : nodes ≠ [])
    (plain : ∀ node ∈ nodes, node.isPlain = true) (groupCount : Nat) (text : String) :
    (Pattern.mk (.anyOf nodes) groupCount options).accepts text = true ↔
      ∃ node ∈ nodes, (Pattern.mk node groupCount options).accepts text = true := by
  have tries (c? : Option Char) :
      (Pattern.mk (.anyOf nodes) groupCount options).triesAt c? = true :=
    triesAt_of_isPlain (Node.isPlain_anyOf plain) groupCount c?
  simp only [accepts_iff, tries, true_and, mem_ways_anyOf nonempty]
  constructor
  · rintro ⟨passed, after, split, t, node, member, reached⟩
    exact ⟨node, member, passed, after, split, triesAt_of_isPlain (plain node member) _ _, t,
      reached⟩
  · rintro ⟨node, member, passed, after, split, -, t, reached⟩
    exact ⟨passed, after, split, t, node, member, reached⟩

end Pattern

end Patternwright.Regex
