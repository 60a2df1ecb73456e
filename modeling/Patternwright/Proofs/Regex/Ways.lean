import Patternwright.Regex.Pattern

/-!
# All ways to match

A tree that is tried at a place hands every state in which it has matched to what comes after it,
one after the other, until one is accepted. Those states can be listed without any continuation:
they are the *ways* of the tree at the place, in order of preference. Running a tree against a
continuation is then a search through its ways, whatever the tree is made of.

A tree in an atomic group or in a condition on what follows is run for its first way only; that is
the head of the list.

## Main definitions

* `Node.ways` — the states in which a tree can have matched, the preferred one first
* `repeatWays`, `greedyWays`, `lazyWays` — the ways of repetitions
* `State.IsAtEnd` — the end of a text, or before its final line break

## Main results

* `Node.run_eq_findSome?` — a tree finds the first of its ways that the continuation accepts
* `mem_ways_sequence_append`, `mem_ways_alternatives` — the ways of rows and of alternatives
* `Pattern.accepts_iff` — a pattern accepts a text in which it has a way somewhere
-/

namespace Patternwright.Regex

/-! ### Repetitions -/

/-- The ways of something repeated exactly `count` times. -/
def repeatWays (ways : State → List State) : (count : Nat) → State → List State
  | 0, s => [s]
  | count + 1, s => (ways s).flatMap (repeatWays ways count)

/-- The ways of something repeated at most `most` times, those with more repetitions first. -/
def greedyWays (ways : State → List State) (most : Option Nat) (s : State) : List State :=
  if most = some 0 then [s]
  else
    ((ways s).flatMap fun t =>
      if t.left < s.left then greedyWays ways (most.map (· - 1)) t else [t]) ++ [s]
termination_by s.left

/-- The ways of something repeated at most `most` times, those with fewer repetitions first. -/
def lazyWays (ways : State → List State) (most : Option Nat) (s : State) : List State :=
  s ::
    if most = some 0 then []
    else (ways s).flatMap fun t =>
      if t.left < s.left then lazyWays ways (most.map (· - 1)) t else [t]
termination_by s.left

/-- A step that tries the given ways one after the other. -/
def stepThrough (ways : State → List State) : Step := fun s next => (ways s).findSome? next

theorem findSome?_flatMap {α β γ : Type} (items : List α) (parts : α → List β)
    (next : β → Option γ) :
    (items.flatMap parts).findSome? next = items.findSome? fun item =>
      (parts item).findSome? next := by
  -- What an item finds is found before anything in the later items.
  induction items with
  | nil => rfl
  | cons item items ih =>
    rw [List.flatMap_cons, List.findSome?_append, ih, List.findSome?_cons]
    cases (parts item).findSome? next <;> rfl

theorem findSome?_some {α : Type} (items : List α) : items.findSome? some = items.head? := by
  cases items <;> rfl

theorem exactly_stepThrough (ways : State → List State) (count : Nat) :
    exactly (stepThrough ways) count = stepThrough (repeatWays ways count) := by
  induction count with
  | zero =>
    funext s next
    simp [exactly, stepThrough, repeatWays, List.findSome?_cons]
    cases next s <;> rfl
  | succ count ih =>
    funext s next
    rw [exactly, ih, stepThrough, stepThrough, repeatWays, findSome?_flatMap]
    rfl

theorem greedily_stepThrough (ways : State → List State) (most : Option Nat) (s : State)
    (next : Continuation) :
    greedily (stepThrough ways) most s next = (greedyWays ways most s).findSome? next := by
  -- The ends with fewer characters left are settled before the ones they are reached from.
  induction remaining : s.left using Nat.strongRecOn generalizing s most with
  | _ _ ih =>
    subst remaining
    rw [greedily, greedyWays]
    split
    · rw [List.findSome?_cons]
      cases next s <;> rfl
    · have later : (stepThrough ways s fun t =>
          if t.left < s.left then greedily (stepThrough ways) (most.map (· - 1)) t next
          else next t) =
          ((ways s).flatMap fun t =>
            if t.left < s.left then greedyWays ways (most.map (· - 1)) t else [t]).findSome?
              next := by
        rw [stepThrough, findSome?_flatMap]
        congr 1
        funext t
        split
        · next closer => exact ih t.left closer _ t rfl
        · rw [List.findSome?_cons]
          cases next t <;> rfl
      simp [later, List.findSome?_append]

theorem lazily_stepThrough (ways : State → List State) (most : Option Nat) (s : State)
    (next : Continuation) :
    lazily (stepThrough ways) most s next = (lazyWays ways most s).findSome? next := by
  -- As for greedy repetitions, but staying comes before going on.
  induction remaining : s.left using Nat.strongRecOn generalizing s most with
  | _ _ ih =>
    subst remaining
    rw [lazily, lazyWays, List.findSome?_cons]
    have later : (if most = some 0 then none
        else stepThrough ways s fun t =>
          if t.left < s.left then lazily (stepThrough ways) (most.map (· - 1)) t next
          else next t) =
        (if most = some 0 then []
          else (ways s).flatMap fun t =>
            if t.left < s.left then lazyWays ways (most.map (· - 1)) t else [t]).findSome?
              next := by
      split
      · rfl
      · rw [stepThrough, findSome?_flatMap]
        congr 1
        funext t
        split
        · next closer => exact ih t.left closer _ t rfl
        · rw [List.findSome?_cons]
          cases next t <;> rfl
    rw [later]
    cases next s <;> rfl

/-! ### Trees -/

namespace Node

/-- The states in which a tree can have matched from a place, the preferred one first. -/
def ways : Node → Options → State → List State
  | empty, _ => fun s => [s]
  | char test, options => fun s =>
    match s.after with
    | [] => []
    | c :: _ => if test.accepts options c then [s.advance 1] else []
  | seq first second, options => fun s => (first.ways options s).flatMap (second.ways options)
  | alt first second, options => fun s => first.ways options s ++ second.ways options s
  | group index body, options => fun s =>
    (body.ways options (s.enter index)).map fun t => t.leave index
  | scope on off body, options => body.ways (options.rescope on off)
  | rep greed least most body, options => fun s =>
    let beyond := most.map (· - least)
    match greed with
    | .greedy =>
      (repeatWays (body.ways options) least s).flatMap (greedyWays (body.ways options) beyond)
    | .lazy =>
      (repeatWays (body.ways options) least s).flatMap (lazyWays (body.ways options) beyond)
    | .possessive =>
      let step := stepThrough (body.ways options)
      ((firstTimes step least s).map (possessively step beyond)).toList
  | atomic body, options => fun s => (body.ways options s).head?.toList
  | ahead negated body, options => fun s =>
    match (body.ways options s).head? with
    | some t => if negated then [] else [{ s with groups := t.groups }]
    | none => if negated then [s] else []
  | behind negated width body, options => fun s =>
    let found? :=
      if s.canRetreat width.least then (body.ways options (s.retreat width.least)).head? else none
    match found? with
    | some t => if negated then [] else [{ s with groups := t.groups }]
    | none => if negated then [s] else []
  | backref index, options => fun s =>
    match s.captured? index with
    | none => []
    | some text =>
      if sameText options text (s.after.take text.length) then [s.advance text.length] else []
  | conditional index yes no, options => fun s =>
    if (s.captured? index).isSome then yes.ways options s else no.ways options s
  | anchor place, options => fun s => if place.holds options s then [s] else []

/-- A tree finds the first of its ways that the continuation accepts. -/
theorem run_eq_findSome? (node : Node) : ∀ (options : Options) (s : State) (next : Continuation),
    node.run options s next = (node.ways options s).findSome? next := by
  induction node with
  | empty =>
    intro options s next
    simp only [run, ways, List.findSome?_singleton]
  | char test =>
    intro options s next
    simp only [run, ways]
    cases s.after with
    | nil => rfl
    | cons c rest =>
      dsimp only
      split
      · rw [List.findSome?_singleton]
      · rfl
  | seq first second ihFirst ihSecond =>
    intro options s next
    simp only [run, ways, ihFirst, ihSecond, findSome?_flatMap]
  | alt first second ihFirst ihSecond =>
    intro options s next
    simp [run, ways, ihFirst, ihSecond, List.findSome?_append]
  | group index body ih =>
    intro options s next
    simp only [run, ways, ih, List.findSome?_map]
    rfl
  | scope on off body ih =>
    intro options s next
    simp only [run, ways, ih]
  | rep greed least most body ih =>
    intro options s next
    have step : body.run options = stepThrough (body.ways options) := by
      funext s next
      exact ih options s next
    simp only [run, ways, step]
    cases greed with
    | greedy =>
      simp only [exactly_stepThrough, greedily_stepThrough, findSome?_flatMap]
      rfl
    | lazy =>
      simp only [exactly_stepThrough, lazily_stepThrough, findSome?_flatMap]
      rfl
    -- Only first ways are looked for, and those are the same for both steps.
    | possessive =>
      cases firstTimes (stepThrough (body.ways options)) least s with
      | none => rfl
      | some t => simp
  | atomic body ih =>
    intro options s next
    simp only [run, ways, ih, findSome?_some]
    cases (body.ways options s).head? with
    | none => rfl
    | some t => simp
  | ahead negated body ih =>
    intro options s next
    simp only [run, ways, ih, findSome?_some]
    cases (body.ways options s).head? <;> cases negated <;> simp
  | behind negated width body ih =>
    intro options s next
    simp only [run, ways, ih, findSome?_some]
    generalize (if s.canRetreat width.least = true then
      (body.ways options (s.retreat width.least)).head? else none) = found
    cases found <;> cases negated <;> simp
  | backref index =>
    intro options s next
    simp only [run, ways]
    cases s.captured? index with
    | none => rfl
    | some text =>
      dsimp only
      split
      · rw [List.findSome?_singleton]
      · rfl
  | conditional index yes no ihYes ihNo =>
    intro options s next
    simp only [run, ways, ihYes, ihNo]
    split <;> rfl
  | anchor place =>
    intro options s next
    simp only [run, ways]
    split
    · rw [List.findSome?_singleton]
    · rfl

end Node

/-! ### Rows and alternatives -/

section Rows

variable {options : Options}

theorem mem_ways_sequence_cons (node : Node) (row : List Node) (s t : State) :
    t ∈ (Node.sequence (node :: row)).ways options s ↔
      ∃ middle ∈ node.ways options s, t ∈ (Node.sequence row).ways options middle := by
  cases row with
  | nil => simp [Node.sequence, Node.ways]
  | cons next row => simp [Node.sequence, Node.ways]

/-- Rows join. -/
theorem mem_ways_sequence_append (row more : List Node) : ∀ s t : State,
    t ∈ (Node.sequence (row ++ more)).ways options s ↔
      ∃ middle ∈ (Node.sequence row).ways options s,
        t ∈ (Node.sequence more).ways options middle := by
  induction row with
  | nil =>
    intro s t
    simp [Node.sequence, Node.ways]
  | cons node row ih =>
    intro s t
    rw [List.cons_append, mem_ways_sequence_cons]
    constructor
    · rintro ⟨first, reached, finished⟩
      obtain ⟨middle, later, last⟩ := (ih first t).mp finished
      exact ⟨middle, (mem_ways_sequence_cons node row s middle).mpr ⟨first, reached, later⟩, last⟩
    · rintro ⟨middle, reached, last⟩
      obtain ⟨first, start, later⟩ := (mem_ways_sequence_cons node row s middle).mp reached
      exact ⟨first, start, (ih first t).mpr ⟨middle, later, last⟩⟩

/-- A way of one of some alternatives. -/
theorem mem_ways_alternatives (s t : State) (rest : List Node) :
    ∀ first : Node, t ∈ (Node.alternatives first rest).ways options s ↔
      ∃ node ∈ first :: rest, t ∈ node.ways options s := by
  induction rest with
  | nil =>
    intro first
    simp [Node.alternatives]
  | cons next rest ih =>
    intro first
    rw [Node.alternatives, Node.ways, List.mem_append, ih next]
    simp

/-! ### Anchors of the whole text -/

/-- The end of the text, or the place before a line break that ends it. -/
def State.IsAtEnd (s : State) : Prop := s.after = [] ∨ s.after = ['\n']

section Single

variable (single : options.multiLine = false)

include single

theorem mem_ways_lineStart (row : List Node) (s t : State) :
    t ∈ (Node.sequence (.anchor .lineStart :: row)).ways options s ↔
      s.before = [] ∧ t ∈ (Node.sequence row).ways options s := by
  have holds : Anchor.lineStart.holds options s = true ↔ s.before = [] := by
    simp [Anchor.holds, single]
  rw [mem_ways_sequence_cons]
  simp only [Node.ways]
  by_cases start : s.before = []
  · simp [holds.mpr start, start]
  · simp [mt holds.mp start, start]

theorem mem_ways_lineEnd (row : List Node) (s t : State) :
    t ∈ (Node.sequence (row ++ [.anchor .lineEnd])).ways options s ↔
      t ∈ (Node.sequence row).ways options s ∧ t.IsAtEnd := by
  have holds (u : State) : Anchor.lineEnd.holds options u = true ↔ u.IsAtEnd := by
    simp [Anchor.holds, State.IsAtEnd, single]
  rw [mem_ways_sequence_append]
  simp only [Node.sequence, Node.ways]
  constructor
  · rintro ⟨u, reached, last⟩
    split at last
    · next ended =>
      obtain rfl := List.mem_singleton.mp last
      exact ⟨reached, (holds t).mp ended⟩
    · exact (List.not_mem_nil last).elim
  · rintro ⟨reached, ended⟩
    exact ⟨t, reached, by simp [(holds t).mpr ended]⟩

end Single

end Rows

/-! ### Patterns -/

namespace Pattern

theorem matchAt?_isSome_iff (pattern : Pattern) (before after : List Char) :
    (pattern.matchAt? before after).isSome = true ↔ pattern.triesAt after.head? = true ∧
      ∃ t, t ∈ pattern.node.ways pattern.options (.fresh before after pattern.groupCount) := by
  rw [matchAt?, Node.run_eq_findSome?, findSome?_some]
  cases pattern.triesAt after.head? with
  | false => simp
  | true => simp [List.isSome_head?, List.eq_nil_iff_forall_not_mem]

theorem searchFrom_isSome_iff (pattern : Pattern) (after : List Char) : ∀ before : List Char,
    (pattern.searchFrom before after).isSome = true ↔
      ∃ passed rest, after = passed ++ rest ∧
        (pattern.matchAt? (passed.reverse ++ before) rest).isSome = true := by
  -- Either the pattern matches here, or the search goes on one character later.
  induction after with
  | nil =>
    intro before
    constructor
    · intro found
      exact ⟨[], [], rfl, by simpa [searchFrom] using found⟩
    · rintro ⟨passed, rest, split, found⟩
      obtain ⟨rfl, rfl⟩ : passed = [] ∧ rest = [] := by simpa using split
      simpa [searchFrom] using found
  | cons c rest ih =>
    intro before
    rw [searchFrom]
    constructor
    · intro found
      cases here : pattern.matchAt? before (c :: rest) with
      | some t => exact ⟨[], c :: rest, rfl, by simp [here]⟩
      | none =>
        rw [here] at found
        obtain ⟨passed, later, split, there⟩ := (ih (c :: before)).mp found
        exact ⟨c :: passed, later, by rw [split]; rfl, by simpa using there⟩
    · rintro ⟨passed, later, split, there⟩
      cases here : pattern.matchAt? before (c :: rest) with
      | some t => rfl
      | none =>
        change (pattern.searchFrom (c :: before) rest).isSome = true
        cases passed with
        | nil =>
          obtain rfl : c :: rest = later := split
          simp [here] at there
        | cons d passed =>
          obtain ⟨rfl, rfl⟩ : c = d ∧ rest = passed ++ later := by simpa using split
          exact (ih (c :: before)).mpr ⟨passed, later, rfl, by simpa using there⟩

/-- A pattern accepts a text in which it has a way from some place that the search tries. -/
theorem accepts_iff (pattern : Pattern) (text : String) :
    pattern.accepts text = true ↔
      ∃ passed rest, text.toList = passed ++ rest ∧ pattern.triesAt rest.head? = true ∧
        ∃ t, t ∈ pattern.node.ways pattern.options
          (.fresh passed.reverse rest pattern.groupCount) := by
  rw [accepts, search?, searchFrom_isSome_iff]
  simp only [matchAt?_isSome_iff, List.append_nil]

end Pattern

end Patternwright.Regex
