import Patternwright.Proofs.Regex.Reading
import Patternwright.Proofs.Regex.Ways
import Patternwright.Proofs.Unicode.LetterCase
import Mathlib.Data.List.Forall2

/-!
# What trees without captures match

The ways of a tree without captures move on through the text and change nothing else. Such a tree
*obeys a law*: its ways from a place are the places behind those words in front that the law allows
there. A law may look at the place, because conditions on what follows and anchors do.

Laws follow the tree. A greedy repetition stops after an iteration that ends where it began, so the
matcher never goes through more than one empty iteration beyond the least count; the law of a
repetition nevertheless allows any number of empty pieces, since they can be left out.

## Main definitions

* `Node.Obeys` — the ways of a tree are the words that a law allows
* `Spells` — what literals for a text accept
* `Pieces` — words one behind the other, each allowed where it begins
* `StartsLine`, `EndsLine` — the places of the anchors of a line

## Main results

* `obeys_rep` — a greedy repetition matches as many pieces as its bounds allow
* `obeys_ahead` — conditions on what follows
* `obeys_sequence_append`, `obeys_anyOf` — rows and alternatives
* `Pattern.accepts_iff_between` — the texts that a pattern between anchors accepts
* `Pattern.accepts_iff_line` — these texts where each of them is one line
-/

namespace Patternwright.Regex

/-! ### Moving on -/

namespace State

theorem ext_of {s t : State} (before : s.before = t.before) (after : s.after = t.after)
    (groups : s.groups = t.groups) : s = t := by
  cases s with
  | mk sBefore sAfter sLeft sGroups sEq =>
    cases t with
    | mk tBefore tAfter tLeft tGroups tEq =>
      simp only at before after groups
      subst before after groups
      simp [sEq, tEq]

@[simp] theorem advance_zero (s : State) : s.advance 0 = s :=
  ext_of (by simp [advance]) (by simp [advance]) rfl

@[simp] theorem advance_advance (s : State) (first second : Nat) :
    (s.advance first).advance second = s.advance (first + second) := by
  refine ext_of ?_ ?_ rfl
  · simp [advance, List.take_add]
  · simp [advance]

@[simp] theorem advance_groups (s : State) (count : Nat) : (s.advance count).groups = s.groups :=
  rfl

theorem advance_after {s : State} {word rest : List Char} (split : s.after = word ++ rest) :
    (s.advance word.length).after = rest := by simp [advance, split]

theorem advance_before {s : State} {word rest : List Char} (split : s.after = word ++ rest) :
    (s.advance word.length).before = word.reverse ++ s.before := by simp [advance, split]

theorem advance_left_lt {s : State} {word : List Char} (ahead : word <+: s.after)
    (nonempty : word ≠ []) : (s.advance word.length).left < s.left := by
  obtain ⟨rest, split⟩ := ahead
  have length : 0 < word.length := List.length_pos_iff.mpr nonempty
  have left := s.left_eq
  rw [← split, List.length_append] at left
  simp only [advance]
  omega

end State

/-! ### Laws -/

/-- Which words are allowed at a place. -/
abbrev Law := State → List Char → Prop

/-- The ways of a tree from a place are the places behind the words in front that a law allows. -/
def Node.Obeys (node : Node) (options : Options) (law : Law) : Prop :=
  ∀ s t, t ∈ node.ways options s ↔
    ∃ word, word <+: s.after ∧ law s word ∧ t = s.advance word.length

variable {options : Options}

theorem Node.Obeys.congr {node : Node} {law other : Law} (obeys : node.Obeys options law)
    (same : ∀ s word, word <+: s.after → (law s word ↔ other s word)) :
    node.Obeys options other := by
  intro s t
  rw [obeys s t]
  constructor
  · rintro ⟨word, ahead, allowed, reached⟩
    exact ⟨word, ahead, (same s word ahead).mp allowed, reached⟩
  · rintro ⟨word, ahead, allowed, reached⟩
    exact ⟨word, ahead, (same s word ahead).mpr allowed, reached⟩

theorem obeys_empty : Node.empty.Obeys options fun _ word => word = [] := by
  intro s t
  constructor
  · intro here
    obtain rfl := List.mem_singleton.mp here
    exact ⟨[], List.nil_prefix, rfl, by simp⟩
  · rintro ⟨word, -, rfl, rfl⟩
    simp [Node.ways]

theorem obeys_char (test : CharTest) :
    (Node.char test).Obeys options fun _ word =>
      ∃ c, word = [c] ∧ test.accepts options c = true := by
  intro s t
  simp only [Node.ways]
  cases after : s.after with
  | nil =>
    simp only [List.not_mem_nil, false_iff]
    rintro ⟨word, ahead, ⟨c, rfl, -⟩, -⟩
    exact absurd (List.prefix_nil.mp ahead) (by simp)
  | cons c rest =>
    dsimp only
    constructor
    · intro reached
      split at reached
      · next accepted =>
        exact ⟨[c], ⟨rest, rfl⟩, ⟨c, rfl, accepted⟩, List.mem_singleton.mp reached⟩
      · exact (List.not_mem_nil reached).elim
    · rintro ⟨word, ahead, ⟨d, rfl, accepted⟩, rfl⟩
      obtain rfl : d = c := by simpa using ahead
      simp [accepted]

theorem obeys_anchor (place : Anchor) :
    (Node.anchor place).Obeys options fun s word => word = [] ∧ place.holds options s = true := by
  intro s t
  simp only [Node.ways]
  constructor
  · intro reached
    split at reached
    · next holds =>
      obtain rfl := List.mem_singleton.mp reached
      exact ⟨[], List.nil_prefix, ⟨rfl, holds⟩, by simp⟩
    · exact (List.not_mem_nil reached).elim
  · rintro ⟨word, -, ⟨rfl, holds⟩, rfl⟩
    simp [holds]

/-- One word behind another. -/
def Law.then (first second : Law) : Law := fun s word =>
  ∃ u v, word = u ++ v ∧ first s u ∧ second (s.advance u.length) v

theorem obeys_of_steps {node first second : Node} {law other : Law}
    (steps : ∀ s t, t ∈ node.ways options s ↔
      ∃ middle ∈ first.ways options s, t ∈ second.ways options middle)
    (obeys : first.Obeys options law) (later : second.Obeys options other) :
    node.Obeys options (law.then other) := by
  intro s t
  rw [steps]
  -- The second tree goes on where the first one has stopped.
  constructor
  · rintro ⟨middle, reached, finished⟩
    obtain ⟨u, ahead, allowed, rfl⟩ := (obeys s middle).mp reached
    obtain ⟨v, behind, allowedLater, rfl⟩ := (later _ t).mp finished
    obtain ⟨rest, split⟩ := ahead
    rw [State.advance_after split.symm] at behind
    refine ⟨u ++ v, ?_, ⟨u, v, rfl, allowed, allowedLater⟩, by simp⟩
    rw [← split]
    exact (List.prefix_append_right_inj u).mpr behind
  · rintro ⟨_, ahead, ⟨u, v, rfl, allowed, allowedLater⟩, rfl⟩
    obtain ⟨rest, split⟩ := ahead
    rw [List.append_assoc] at split
    refine ⟨s.advance u.length, (obeys s _).mpr ⟨u, ⟨_, split⟩, allowed, rfl⟩, ?_⟩
    refine (later _ _).mpr ⟨v, ?_, allowedLater, by simp⟩
    rw [State.advance_after split.symm]
    exact List.prefix_append v rest

/-! ### Rows -/

theorem obeys_sequence_cons {node : Node} {row : List Node} {law other : Law}
    (obeys : node.Obeys options law) (later : (Node.sequence row).Obeys options other) :
    (Node.sequence (node :: row)).Obeys options (law.then other) :=
  obeys_of_steps (mem_ways_sequence_cons node row) obeys later

theorem obeys_sequence_append {row more : List Node} {law other : Law}
    (obeys : (Node.sequence row).Obeys options law)
    (later : (Node.sequence more).Obeys options other) :
    (Node.sequence (row ++ more)).Obeys options (law.then other) :=
  obeys_of_steps (mem_ways_sequence_append row more) obeys later

/-- Literals for a text accept a word, character by character. -/
def Spells (options : Options) (text word : List Char) : Prop :=
  List.Forall₂ (fun c d => literalAccepts options c.toNat d.toNat = true) text word

/-- Where case counts, literals accept their own text only. -/
theorem spells_iff_eq (cased : options.ignoreCase = false) {text word : List Char} :
    Spells options text word ↔ word = text := by
  have same (c d : Char) : literalAccepts options c.toNat d.toNat = true ↔ c = d := by
    simpa [literalAccepts, cased, Char.toNat_inj] using eq_comm
  simp only [Spells, same, List.forall₂_eq_eq_eq]
  exact eq_comm

theorem fold_eq_lineBreak {code : Nat} : options.fold code = 0x0A ↔ code = 0x0A := by
  unfold Options.fold
  split
  · split
    · exact Unicode.lowerCase_eq_lineBreak
    · exact Iff.rfl
  · exact Unicode.lowerCase_eq_lineBreak

theorem lineBreak_not_mem_siblings (folded : Nat) : 0x0A ∉ options.siblings folded := by
  unfold Options.siblings
  split
  · exact List.not_mem_nil
  · exact Unicode.lineBreak_not_mem_siblings folded

/-- Whatever the options are, only its own literal accepts a line break. -/
theorem literalAccepts_lineBreak {code : Nat} :
    literalAccepts options code 0x0A = true ↔ code = 0x0A := by
  have folded : options.fold 0x0A = 0x0A := fold_eq_lineBreak.mpr rfl
  unfold literalAccepts
  split
  · simp only [folded, Bool.or_eq_true, beq_iff_eq, List.contains_iff_mem,
      lineBreak_not_mem_siblings, or_false]
    exact eq_comm.trans fold_eq_lineBreak
  · exact beq_iff_eq.trans eq_comm

theorem spells_lineBreak_iff {text : List Char} : Spells options text ['\n'] ↔ text = ['\n'] := by
  constructor
  · rintro (_ | ⟨accepted, _ | _⟩)
    exact congrArg (fun c => [c]) (Char.toNat_inj.mp (literalAccepts_lineBreak.mp accepted))
  · rintro rfl
    exact .cons (literalAccepts_lineBreak.mpr rfl) .nil

theorem obeys_spelled (text : List Char) :
    (Node.sequence (literals text)).Obeys options fun _ word => Spells options text word := by
  induction text with
  | nil => exact obeys_empty.congr fun s word _ => List.forall₂_nil_left_iff.symm
  | cons c text ih =>
    refine (obeys_sequence_cons (obeys_char (.one c.toNat)) ih).congr fun s word _ => ?_
    constructor
    · rintro ⟨_, v, rfl, ⟨d, rfl, accepted⟩, later⟩
      exact .cons accepted later
    · rintro (_ | ⟨accepted, later⟩)
      exact ⟨[_], _, rfl, ⟨_, rfl, accepted⟩, later⟩

/-- Where case counts, literals match their own text. -/
theorem obeys_literals (cased : options.ignoreCase = false) (text : List Char) :
    (Node.sequence (literals text)).Obeys options fun _ word => word = text :=
  (obeys_spelled text).congr fun _ _ _ => spells_iff_eq cased

/-! ### Alternatives -/

/-- Any of some alternatives allows what one of them allows. -/
theorem obeys_anyOf {ι : Type} {items : List ι} (nonempty : items ≠ []) {node : ι → Node}
    {law : ι → Law} (obeys : ∀ item ∈ items, (node item).Obeys options (law item)) :
    (Node.anyOf (items.map node)).Obeys options fun s word => ∃ item ∈ items, law item s word := by
  obtain ⟨first, rest, rfl⟩ := List.exists_cons_of_ne_nil nonempty
  intro s t
  rw [List.map_cons, Node.anyOf, mem_ways_alternatives, ← List.map_cons]
  constructor
  · rintro ⟨_, member, reached⟩
    obtain ⟨item, known, rfl⟩ := List.mem_map.mp member
    obtain ⟨word, ahead, allowed, rfl⟩ := (obeys item known s t).mp reached
    exact ⟨word, ahead, ⟨item, known, allowed⟩, rfl⟩
  · rintro ⟨word, ahead, ⟨item, known, allowed⟩, rfl⟩
    exact ⟨node item, List.mem_map_of_mem known,
      (obeys item known s _).mpr ⟨word, ahead, allowed, rfl⟩⟩

/-! ### Conditions on what follows -/

theorem obeys_ahead {body : Node} {law : Law} (obeys : body.Obeys options law) (negated : Bool) :
    (Node.ahead negated body).Obeys options fun s word =>
      word = [] ∧ ((∃ found, found <+: s.after ∧ law s found) ↔ negated = false) := by
  intro s t
  have found : (∃ word, word <+: s.after ∧ law s word) ↔ ∃ t, t ∈ body.ways options s := by
    constructor
    · rintro ⟨word, ahead, allowed⟩
      exact ⟨_, (obeys s _).mpr ⟨word, ahead, allowed, rfl⟩⟩
    · rintro ⟨t, reached⟩
      obtain ⟨word, ahead, allowed, -⟩ := (obeys s t).mp reached
      exact ⟨word, ahead, allowed⟩
  have stays : (∃ word, word <+: s.after ∧ (word = [] ∧
      ((∃ found, found <+: s.after ∧ law s found) ↔ negated = false)) ∧
        t = s.advance word.length) ↔
      t = s ∧ ((∃ t, t ∈ body.ways options s) ↔ negated = false) := by
    rw [found]
    constructor
    · rintro ⟨word, -, ⟨rfl, holds⟩, rfl⟩
      exact ⟨State.advance_zero s, holds⟩
    · rintro ⟨rfl, holds⟩
      exact ⟨[], List.nil_prefix, ⟨rfl, holds⟩, (State.advance_zero t).symm⟩
  rw [stays]
  simp only [Node.ways]
  cases first : body.ways options s with
  | nil => cases negated <;> simp
  | cons other others =>
    -- The body has moved on without touching any group, so only the place is taken back.
    have reached : other ∈ body.ways options s := first ▸ List.mem_cons_self
    obtain ⟨word, -, -, rfl⟩ := (obeys s other).mp reached
    have kept : { s with groups := (s.advance word.length).groups } = s := rfl
    cases negated with
    | true =>
      simp only [List.head?_cons, ↓reduceIte, List.not_mem_nil, false_iff, not_and]
      rintro -
      simp
    | false =>
      simp only [List.head?_cons, Bool.false_eq_true, ↓reduceIte, kept, List.mem_singleton]
      simp

/-! ### Repetitions -/

/-- Words one behind the other, each allowed at the place where it begins. -/
def Pieces (law : Law) : State → List (List Char) → Prop
  | _, [] => True
  | s, piece :: pieces => law s piece ∧ Pieces law (s.advance piece.length) pieces

theorem pieces_append {law : Law} (first : List (List Char)) (second : List (List Char)) :
    ∀ s : State, Pieces law s (first ++ second) ↔
      Pieces law s first ∧ Pieces law (s.advance first.flatten.length) second := by
  induction first with
  | nil =>
    intro s
    simp [Pieces]
  | cons piece first ih =>
    intro s
    simp [Pieces, ih, and_assoc]

/-- One piece and no other. -/
theorem exists_single_iff {law : Law} {s : State} (Fits : List Char → Prop) :
    (∃ piece, Fits piece ∧ law s piece) ↔
      ∃ pieces : List (List Char), Fits pieces.flatten ∧ 1 ≤ pieces.length ∧
        (∀ limit, some 1 = some limit → pieces.length ≤ limit) ∧ Pieces law s pieces := by
  constructor
  · rintro ⟨piece, fits, holds⟩
    exact ⟨[piece], by simpa using fits, Nat.le_refl 1, by simp, holds, trivial⟩
  · rintro ⟨pieces, fits, enough, few, holds⟩
    have length : pieces.length = 1 := Nat.le_antisymm (few 1 rfl) enough
    obtain ⟨piece, rfl⟩ := List.length_eq_one_iff.mp length
    exact ⟨piece, by simpa using fits, holds.1⟩

/-- Empty pieces can be left out. -/
theorem exists_nonempty_pieces {law : Law} (pieces : List (List Char)) : ∀ s : State,
    Pieces law s pieces →
      ∃ kept, kept.flatten = pieces.flatten ∧ kept.length ≤ pieces.length ∧
        (∀ piece ∈ kept, piece ≠ []) ∧ Pieces law s kept := by
  induction pieces with
  | nil => exact fun s _ => ⟨[], rfl, Nat.le_refl 0, by simp, trivial⟩
  | cons piece pieces ih =>
    rintro s ⟨allowed, later⟩
    obtain ⟨kept, same, fewer, nonempty, holds⟩ := ih _ later
    -- An empty piece does not move on, so the later ones hold from where it began.
    by_cases empty : piece = []
    · subst empty
      exact ⟨kept, by simpa using same, by simp; omega, nonempty, by simpa using holds⟩
    · refine ⟨piece :: kept, by simp [same], by simp [fewer], ?_, allowed, holds⟩
      simpa [empty] using nonempty

theorem mem_repeatWays {body : Node} {law : Law} (obeys : body.Obeys options law) (count : Nat) :
    ∀ s t : State, t ∈ repeatWays (body.ways options) count s ↔
      ∃ pieces, pieces.length = count ∧ pieces.flatten <+: s.after ∧ Pieces law s pieces ∧
        t = s.advance pieces.flatten.length := by
  -- The first piece is one step; the others are steps from the place behind it.
  induction count with
  | zero =>
    intro s t
    simp [repeatWays, Pieces]
  | succ count ih =>
    intro s t
    rw [repeatWays, List.mem_flatMap]
    constructor
    · rintro ⟨middle, reached, finished⟩
      obtain ⟨word, ⟨rest, split⟩, allowed, rfl⟩ := (obeys s middle).mp reached
      obtain ⟨pieces, rfl, ahead, holds, rfl⟩ := (ih _ t).mp finished
      rw [State.advance_after split.symm] at ahead
      refine ⟨word :: pieces, rfl, ?_, ⟨allowed, holds⟩, by simp⟩
      rw [List.flatten_cons, ← split]
      exact (List.prefix_append_right_inj word).mpr ahead
    · rintro ⟨pieces, length, ⟨rest, split⟩, holds, rfl⟩
      cases pieces with
      | nil => simp at length
      | cons piece pieces =>
        obtain ⟨allowed, later⟩ := holds
        rw [List.flatten_cons, List.append_assoc] at split
        refine ⟨s.advance piece.length, (obeys s _).mpr ⟨piece, ⟨_, split⟩, allowed, rfl⟩, ?_⟩
        refine (ih _ _).mpr ⟨pieces, by simpa using length, ?_, later, by simp⟩
        rw [State.advance_after split.symm]
        exact List.prefix_append _ rest

/-- What a greedy repetition ends in has been reached piece by piece. -/
theorem pieces_of_mem_greedyWays {body : Node} {law : Law} (obeys : body.Obeys options law)
    (most : Option Nat) (s t : State) (reached : t ∈ greedyWays (body.ways options) most s) :
    ∃ pieces, (∀ limit, most = some limit → pieces.length ≤ limit) ∧ pieces.flatten <+: s.after ∧
      Pieces law s pieces ∧ t = s.advance pieces.flatten.length := by
  -- A step goes on only with less text left; one that does not move on is the last.
  induction remaining : s.left using Nat.strongRecOn generalizing s most with
  | _ _ ih =>
    subst remaining
    have stay : ∃ pieces : List (List Char),
        (∀ limit, most = some limit → pieces.length ≤ limit) ∧ pieces.flatten <+: s.after ∧
          Pieces law s pieces ∧ s = s.advance pieces.flatten.length :=
      ⟨[], by simp, List.nil_prefix, trivial, by simp⟩
    rw [greedyWays] at reached
    split at reached
    · obtain rfl := List.mem_singleton.mp reached
      exact stay
    · next open' =>
      rcases List.mem_append.mp reached with further | here
      · obtain ⟨middle, moved, finished⟩ := List.mem_flatMap.mp further
        obtain ⟨word, ⟨rest, split⟩, allowed, rfl⟩ := (obeys s middle).mp moved
        split at finished
        · next closer =>
          obtain ⟨pieces, few, ahead, holds, rfl⟩ := ih _ closer _ _ finished rfl
          rw [State.advance_after split.symm] at ahead
          refine ⟨word :: pieces, ?_, ?_, ⟨allowed, holds⟩, by simp⟩
          · rintro limit rfl
            have fewer := few (limit - 1) rfl
            have positive : limit ≠ 0 := fun zero => open' (zero ▸ rfl)
            simp only [List.length_cons]
            omega
          · rw [List.flatten_cons, ← split]
            exact (List.prefix_append_right_inj word).mpr ahead
        · obtain rfl := List.mem_singleton.mp finished
          refine ⟨[word], ?_, ⟨rest, by simpa using split⟩, ⟨allowed, trivial⟩, by simp⟩
          rintro limit rfl
          have positive : limit ≠ 0 := fun zero => open' (zero ▸ rfl)
          simp only [List.length_singleton]
          omega
      · obtain rfl := List.mem_singleton.mp here
        exact stay

/-- Pieces that all move on are gone through by a greedy repetition. -/
theorem mem_greedyWays_of_pieces {body : Node} {law : Law} (obeys : body.Obeys options law)
    (pieces : List (List Char)) : ∀ (most : Option Nat) (s : State),
    (∀ limit, most = some limit → pieces.length ≤ limit) → (∀ piece ∈ pieces, piece ≠ []) →
      pieces.flatten <+: s.after → Pieces law s pieces →
        s.advance pieces.flatten.length ∈ greedyWays (body.ways options) most s := by
  -- Every piece moves on, so none of them ends the repetition early.
  induction pieces with
  | nil =>
    intro most s _ _ _ _
    rw [greedyWays]
    split <;> simp
  | cons piece pieces ih =>
    rintro most s few nonempty ⟨rest, split⟩ ⟨allowed, later⟩
    have open' : most ≠ some 0 := by
      rintro rfl
      exact absurd (few 0 rfl) (by simp)
    rw [List.flatten_cons, List.append_assoc] at split
    have reached : s.advance piece.length ∈ body.ways options s :=
      (obeys s _).mpr ⟨piece, ⟨_, split⟩, allowed, rfl⟩
    have closer : (s.advance piece.length).left < s.left :=
      State.advance_left_lt ⟨_, split⟩ (nonempty piece List.mem_cons_self)
    have fewer : ∀ limit, most.map (· - 1) = some limit → pieces.length ≤ limit := by
      intro limit reduced
      obtain ⟨bound, rfl, rfl⟩ := Option.map_eq_some_iff.mp reduced
      have length := few bound rfl
      simp only [List.length_cons] at length
      omega
    have inside := ih (most.map (· - 1)) (s.advance piece.length) fewer
      (fun other member => nonempty other (List.mem_cons_of_mem _ member))
      (by rw [State.advance_after split.symm]; exact List.prefix_append _ rest) later
    rw [greedyWays, if_neg open']
    refine List.mem_append_left _ (List.mem_flatMap.mpr ⟨_, reached, ?_⟩)
    rw [if_pos closer]
    simpa using inside

/-- A greedy repetition matches pieces one behind the other, as many as its bounds allow. -/
theorem obeys_rep {body : Node} {law : Law} (obeys : body.Obeys options law) {least : Nat}
    {most : Option Nat} (ordered : ∀ limit, most = some limit → least ≤ limit) :
    (Node.rep .greedy least most body).Obeys options fun s word =>
      ∃ pieces, word = pieces.flatten ∧ least ≤ pieces.length ∧
        (∀ limit, most = some limit → pieces.length ≤ limit) ∧ Pieces law s pieces := by
  intro s t
  simp only [Node.ways]
  rw [List.mem_flatMap]
  constructor
  · rintro ⟨middle, reached, finished⟩
    obtain ⟨first, rfl, ⟨rest, split⟩, holds, rfl⟩ :=
      (mem_repeatWays obeys least s middle).mp reached
    obtain ⟨more, few, ahead, later, rfl⟩ := pieces_of_mem_greedyWays obeys _ _ t finished
    rw [State.advance_after split.symm] at ahead
    refine ⟨(first ++ more).flatten, ?_, ⟨first ++ more, rfl, by simp, ?_, ?_⟩, by simp⟩
    · rw [List.flatten_append, ← split]
      exact (List.prefix_append_right_inj _).mpr ahead
    · rintro limit rfl
      have fewer := few (limit - first.length) rfl
      have enough := ordered limit rfl
      simp only [List.length_append]
      omega
    · exact (pieces_append first more s).mpr ⟨holds, later⟩
  · rintro ⟨_, ⟨rest, split⟩, ⟨pieces, rfl, enough, few, holds⟩, rfl⟩
    -- The first pieces, as many as there have to be, may be empty; of the others none needs to be.
    obtain ⟨first, more, rfl, length⟩ :
        ∃ first more, pieces = first ++ more ∧ first.length = least :=
      ⟨pieces.take least, pieces.drop least, (List.take_append_drop least pieces).symm,
        by simp [enough]⟩
    obtain ⟨start, later⟩ := (pieces_append first more s).mp holds
    obtain ⟨kept, same, fewer, nonempty, moved⟩ := exists_nonempty_pieces more _ later
    rw [List.flatten_append, List.append_assoc] at split
    refine ⟨s.advance first.flatten.length,
      (mem_repeatWays obeys least s _).mpr ⟨first, length, ⟨_, split⟩, start, rfl⟩, ?_⟩
    have ahead : kept.flatten <+: (s.advance first.flatten.length).after := by
      rw [State.advance_after split.symm, same]
      exact List.prefix_append _ rest
    have bounded : ∀ limit, most.map (· - least) = some limit → kept.length ≤ limit := by
      intro limit reduced
      obtain ⟨bound, rfl, rfl⟩ := Option.map_eq_some_iff.mp reduced
      have total := few bound rfl
      simp only [List.length_append] at total
      omega
    have reached := mem_greedyWays_of_pieces obeys kept _ _ bounded nonempty ahead moved
    rw [same] at reached
    simpa using reached

/-- Where a law does not look at the place, pieces are allowed one by one. -/
theorem pieces_iff_forall {Allowed : List Char → Prop} (pieces : List (List Char)) : ∀ s : State,
    Pieces (fun _ word => Allowed word) s pieces ↔ ∀ piece ∈ pieces, Allowed piece := by
  induction pieces with
  | nil =>
    intro s
    simp [Pieces]
  | cons piece pieces ih =>
    intro s
    rw [Pieces, ih, List.forall_mem_cons]

theorem exists_map_iff {α β : Type} {form : α → β} {Holds : α → Prop} (words : List β) :
    (∀ word ∈ words, ∃ item, Holds item ∧ word = form item) ↔
      ∃ items : List α, words = items.map form ∧ ∀ item ∈ items, Holds item := by
  induction words with
  | nil => exact ⟨fun _ => ⟨[], rfl, by simp⟩, by simp⟩
  | cons word words ih =>
    rw [List.forall_mem_cons, ih]
    constructor
    · rintro ⟨⟨item, holds, rfl⟩, items, rfl, all⟩
      exact ⟨item :: items, rfl, List.forall_mem_cons.mpr ⟨holds, all⟩⟩
    · rintro ⟨items, same, all⟩
      obtain ⟨item, items, rfl, rfl, rfl⟩ := List.map_eq_cons_iff.mp same.symm
      obtain ⟨holds, later⟩ := List.forall_mem_cons.mp all
      exact ⟨⟨item, holds, rfl⟩, items, rfl, later⟩

/-- Pieces of one character each are the same as a word. -/
theorem exists_chars_iff {Holds : Char → Prop} {least : Nat} {most : Option Nat} {s : State}
    {word : List Char} :
    (∃ pieces, word = pieces.flatten ∧ least ≤ pieces.length ∧
        (∀ limit, most = some limit → pieces.length ≤ limit) ∧
        Pieces (fun _ piece => ∃ c, piece = [c] ∧ Holds c) s pieces) ↔
      least ≤ word.length ∧ (∀ limit, most = some limit → word.length ≤ limit) ∧
        ∀ c ∈ word, Holds c := by
  have single (pieces : List (List Char)) :
      Pieces (fun _ piece => ∃ c, piece = [c] ∧ Holds c) s pieces ↔
        ∃ word : List Char, pieces = word.map ([·]) ∧ ∀ c ∈ word, Holds c := by
    rw [pieces_iff_forall, ← exists_map_iff]
    simp only [and_comm]
  simp only [single]
  constructor
  · rintro ⟨_, rfl, enough, few, spelled, rfl, all⟩
    rw [← List.flatMap_def, List.flatMap_singleton']
    exact ⟨by simpa using enough, by simpa using few, all⟩
  · rintro ⟨enough, few, all⟩
    refine ⟨word.map ([·]), ?_, by simpa using enough, by simpa using few, word, rfl, all⟩
    rw [← List.flatMap_def, List.flatMap_singleton']

/-- A repeated character is a word of such characters. -/
theorem obeys_rep_char (test : CharTest) (least : Nat) {most : Option Nat}
    (ordered : ∀ limit, most = some limit → least ≤ limit) :
    (Node.rep .greedy least most (.char test)).Obeys options fun _ word =>
      least ≤ word.length ∧ (∀ limit, most = some limit → word.length ≤ limit) ∧
        ∀ c ∈ word, test.accepts options c = true :=
  (obeys_rep (obeys_char test) ordered).congr fun _ _ _ => exists_chars_iff

/-! ### The empty pattern -/

/-- The empty pattern is found at the start of any text. -/
theorem Pattern.accepts_empty (groupCount : Nat) (options : Options) (text : String) :
    (Pattern.mk .empty groupCount options).accepts text = true :=
  (accepts_iff _ text).mpr ⟨[], text.toList, rfl, rfl, _, List.mem_singleton_self _⟩

/-! ### Patterns in a text -/

/-- A pattern that the search tries everywhere accepts the texts with a word that its law allows
somewhere. -/
theorem Pattern.accepts_iff_within {node : Node} {law : Law} (obeys : node.Obeys options law)
    {groupCount : Nat} (tries : ∀ c?, (Pattern.mk node groupCount options).triesAt c? = true)
    (text : String) :
    (Pattern.mk node groupCount options).accepts text = true ↔
      ∃ passed word rest, text.toList = passed ++ (word ++ rest) ∧
        law (.fresh passed.reverse (word ++ rest) groupCount) word := by
  rw [Pattern.accepts_iff]
  simp only [tries, true_and]
  constructor
  · rintro ⟨passed, after, split, t, reached⟩
    obtain ⟨word, ⟨rest, ahead⟩, allowed, -⟩ := (obeys _ t).mp reached
    obtain rfl : word ++ rest = after := ahead
    exact ⟨passed, word, rest, split, allowed⟩
  · rintro ⟨passed, word, rest, split, allowed⟩
    exact ⟨passed, word ++ rest, split, _, (obeys _ _).mpr ⟨word, ⟨rest, rfl⟩, allowed, rfl⟩⟩

/-! ### Patterns between anchors -/

/-- A line starts behind this much of a text. -/
def StartsLine (options : Options) (passed : List Char) : Prop :=
  passed = [] ∨ options.multiLine = true ∧ passed.getLast? = some '\n'

/-- A line ends before this much of a text; a line break that ends the text may be left. -/
def EndsLine (options : Options) (rest : List Char) : Prop :=
  (rest = [] ∨ rest = ['\n']) ∨ options.multiLine = true ∧ rest.head? = some '\n'

theorem startsLine_iff (single : options.multiLine = false) {passed : List Char} :
    StartsLine options passed ↔ passed = [] := by
  simp [StartsLine, single]

theorem endsLine_iff (single : options.multiLine = false) {rest : List Char} :
    EndsLine options rest ↔ rest = [] ∨ rest = ['\n'] := by
  simp [EndsLine, single]

theorem startsLine_iff_of_multiLine (many : options.multiLine = true) {passed : List Char} :
    StartsLine options passed ↔ passed = [] ∨ passed.getLast? = some '\n' := by
  simp [StartsLine, many]

theorem endsLine_iff_of_multiLine (many : options.multiLine = true) {rest : List Char} :
    EndsLine options rest ↔ rest = [] ∨ rest.head? = some '\n' := by
  have broken : rest = ['\n'] → rest.head? = some '\n' := by
    rintro rfl
    rfl
  simp only [EndsLine, many, true_and]
  tauto

/-- A text with nothing or one line break behind it. -/
theorem exists_final_iff {text word : List Char} :
    (∃ final, text = word ++ final ∧ (final = [] ∨ final = ['\n'])) ↔
      text = word ∨ text = word ++ ['\n'] := by
  constructor
  · rintro ⟨_, split, rfl | rfl⟩
    · exact .inl (split.trans (List.append_nil word))
    · exact .inr split
  · rintro (rfl | rfl)
    · exact ⟨[], (List.append_nil _).symm, .inl rfl⟩
    · exact ⟨['\n'], rfl, .inr rfl⟩

theorem holds_lineStart_iff (s : State) :
    Anchor.lineStart.holds options s = true ↔ StartsLine options s.before.reverse := by
  simp [Anchor.holds, StartsLine]

theorem holds_lineEnd_iff (s : State) :
    Anchor.lineEnd.holds options s = true ↔ EndsLine options s.after := by
  simp [Anchor.holds, EndsLine]

/-- The search for a pattern that opens with an anchor passes over no place. -/
theorem triesAt_of_anchor (place : Anchor) (row : List Node) (groupCount : Nat) (options : Options)
    (c? : Option Char) :
    (Pattern.mk (.sequence (.anchor place :: row)) groupCount options).triesAt c? = true := by
  cases row <;> rfl

/-- A pattern between anchors accepts a text with a word that its law allows from the start of a
line to the end of one. -/
theorem Pattern.accepts_iff_between {row : List Node} {law : Law}
    (obeys : (Node.sequence row).Obeys options law) (groupCount : Nat) (text : String) :
    (Pattern.mk (.sequence (.anchor .lineStart :: (row ++ [.anchor .lineEnd]))) groupCount
        options).accepts text = true ↔
      ∃ passed word rest, text.toList = passed ++ (word ++ rest) ∧ StartsLine options passed ∧
        EndsLine options rest ∧ law (.fresh passed.reverse (word ++ rest) groupCount) word := by
  have ending : (Node.sequence [.anchor .lineEnd]).Obeys options fun s word =>
      word = [] ∧ Anchor.lineEnd.holds options s = true := obeys_anchor .lineEnd
  have whole := obeys_sequence_cons (obeys_anchor .lineStart) (obeys_sequence_append obeys ending)
  rw [Pattern.accepts_iff_within whole (triesAt_of_anchor _ _ _ _)]
  refine exists_congr fun passed => exists_congr fun word => exists_congr fun rest =>
    and_congr_right fun _ => ?_
  have starts : (State.fresh passed.reverse (word ++ rest) groupCount).before.reverse = passed :=
    List.reverse_reverse passed
  have ends : ((State.fresh passed.reverse (word ++ rest) groupCount).advance word.length).after =
      rest := State.advance_after rfl
  constructor
  · rintro ⟨_, inside, rfl, ⟨rfl, start⟩, u, _, rfl, allowed, rfl, stop⟩
    simp only [List.nil_append, List.append_nil, List.length_nil, State.advance_zero] at *
    exact ⟨starts ▸ (holds_lineStart_iff _).mp start, ends ▸ (holds_lineEnd_iff _).mp stop, allowed⟩
  · rintro ⟨start, stop, allowed⟩
    refine ⟨[], word, rfl, ⟨rfl, ?_⟩, word, [], by simp, ?_, rfl, ?_⟩
    · exact (holds_lineStart_iff _).mpr (by rwa [starts])
    · simpa using allowed
    · exact (holds_lineEnd_iff _).mpr (by simpa [ends] using stop)

/-- Where a text is one line, a pattern between anchors accepts the words that its row matches, with
or without a line break behind them. -/
theorem Pattern.accepts_iff_line {row : List Node} {law : List Char → Prop}
    (obeys : (Node.sequence row).Obeys options fun _ word => law word)
    (single : options.multiLine = false) (groupCount : Nat) (text : String) :
    (Pattern.mk (.sequence (.anchor .lineStart :: (row ++ [.anchor .lineEnd]))) groupCount
        options).accepts text = true ↔
      ∃ word, law word ∧ (text.toList = word ∨ text.toList = word ++ ['\n']) := by
  rw [Pattern.accepts_iff_between obeys]
  constructor
  · rintro ⟨passed, word, rest, split, starts, ends, allowed⟩
    -- Nothing comes before the word, and behind it at most the line break that the end leaves out.
    obtain rfl := (startsLine_iff single).mp starts
    refine ⟨word, allowed, ?_⟩
    rcases (endsLine_iff single).mp ends with rfl | rfl
    · exact .inl (by simpa using split)
    · exact .inr (by simpa using split)
  · rintro ⟨word, allowed, split | split⟩
    · exact ⟨[], word, [], by simpa using split, .inl rfl, .inl (.inl rfl), allowed⟩
    · exact ⟨[], word, ['\n'], by simpa using split, .inl rfl, .inl (.inr rfl), allowed⟩

end Patternwright.Regex
