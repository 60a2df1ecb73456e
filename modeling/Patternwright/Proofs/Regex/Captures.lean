import Mathlib.Algebra.GroupWithZero.Nat
import Patternwright.Proofs.Regex.Reading

/-!
# What a text with captures adds to a pattern

A group that captures has a number, one for each such group before it. So a text with captures adds
a row that depends on how many groups there are already, and it leaves more of them behind. Such
texts join like others, and they can be the alternatives of a pattern with bars between them.

## Main definitions

* `Adds` — a text adds a row, given the count of groups before it, and some groups
* `alternativesFrom` — alternatives in a row, given the count of groups before them

## Main results

* `Adds.append`, `Fills.adds_group` — rows join, and a group captures
* `read_bars` — texts with bars between them are the alternatives of a pattern
-/

namespace Patternwright.Regex

/-- There are some more groups than before; nothing else of a pattern as a whole has changed. -/
structure Ledger.Extends (after ledger : Ledger) (count : Nat) : Prop where
  flags : after.flags = ledger.flags
  conditions : after.conditions = ledger.conditions
  groups : after.groups.length = ledger.groups.length + count

theorem Ledger.Extends.trans {after middle ledger : Ledger} {count more : Nat}
    (last : after.Extends middle more) (first : middle.Extends ledger count) :
    after.Extends ledger (count + more) where
  flags := last.flags.trans first.flags
  conditions := last.conditions.trans first.conditions
  groups := by rw [last.groups, first.groups, Nat.add_assoc]

/-- Wherever the text stands, it adds some groups, and to the open frame it adds the row for the
count of groups before it. -/
structure Adds (text : List Char) (count : Nat) (row : Nat → List Node) : Prop where
  calm : Calm text
  extend : ∀ (ledger : Ledger) (frame : Frame) (outer : List Frame) (rest : List Char),
    frame.verbose = false → Calm rest →
      ∃ (after : Ledger) (pieces : List Piece), after.Extends ledger count ∧
        pieces.map Piece.node = row ledger.groups.length ∧
        readFrames ledger frame outer (tokenize (text ++ rest)) =
          readFrames after (frame.extend pieces) outer (tokenize rest)

/-- A text without captures adds the same row everywhere. -/
theorem Reads.adds {text : List Char} {row : List Node} (reads : Reads text row) :
    Adds text 0 fun _ => row := by
  obtain ⟨pieces, parts, step⟩ := reads.extend
  refine ⟨reads.calm, fun ledger frame outer rest loose calm => ?_⟩
  exact ⟨ledger, pieces, ⟨rfl, rfl, rfl⟩, parts, step ledger frame outer rest loose calm⟩

theorem Adds.append {text more : List Char} {count countMore : Nat} {row next : Nat → List Node}
    (first : Adds text count row) (second : Adds more countMore next) :
    Adds (text ++ more) (count + countMore) fun before => row before ++ next (before + count) := by
  refine ⟨first.calm.append second.calm, fun ledger frame outer rest loose calm => ?_⟩
  obtain ⟨middle, pieces, grown, parts, step⟩ :=
    first.extend ledger frame outer (more ++ rest) loose (second.calm.append calm)
  obtain ⟨after, others, grownMore, partsMore, later⟩ :=
    second.extend middle (frame.extend pieces) outer rest (by simpa using loose) calm
  refine ⟨after, pieces ++ others, grownMore.trans grown, ?_, ?_⟩
  · rw [List.map_append, parts, partsMore, grown.groups]
  · rw [List.append_assoc, step, later, Frame.extend_extend]

/-! ### Groups -/

/-- Only a question mark makes a group something else than one that captures. -/
theorem readGroupHead_capture (ledger : Ledger) {tokens : List Token}
    (plain : ∀ later, tokens ≠ .plain '?' :: later) :
    readGroupHead ledger tokens =
      .ok (ledger.openGroup, .opens (.capture ledger.groups.length), tokens) := by
  rw [readGroupHead]
  · rfl
  · exact plain

/-- A group captures under the number that comes next. -/
theorem Fills.adds_group {text : List Char} {alternatives : List Node}
    (fills : Fills text alternatives) (plain : text.head? ≠ some '?') :
    Adds ('(' :: (text ++ [')'])) 1 fun before => [.group before (.anyOf alternatives)] := by
  refine ⟨calm_cons rfl, fun ledger frame outer rest loose calm => ?_⟩
  -- The content is read in a frame of its own, up to the parenthesis that closes it.
  let inside := tokenize (text ++ ')' :: rest)
  let opened : Frame :=
    { opener := .capture ledger.groups.length, start := left inside + 1, verbose := frame.verbose }
  obtain ⟨filled, opener, content, step⟩ := fills.alternatives_eq ledger.openGroup opened
    (frame :: outer) rest loose rfl rfl (by simp [opened])
  have first : (text ++ ')' :: rest).head? ≠ some '?' := by
    cases text <;> simp_all
  have head := readGroupHead_capture ledger (tokenize_ne_plain first)
  have begins : readFrames ledger frame outer (tokenize ('(' :: (text ++ ')' :: rest))) =
      readFrames ledger.openGroup opened (frame :: outer) inside := by
    rw [tokenize_plain (by decide), readFrames, settle_tokenize (fills.settled rest), head]
    simp [resume_self, opened, inside]
  let width := filled.body.width ledger.openGroup.groupWidth
  refine ⟨ledger.openGroup.closeGroup ledger.groups.length width,
    [⟨.group ledger.groups.length (.anyOf alternatives), .atom⟩], ⟨rfl, rfl, ?_⟩, rfl, ?_⟩
  · simp [Ledger.closeGroup, Ledger.openGroup]
  · have closed : filled.close ledger.openGroup =
        (ledger.openGroup.closeGroup ledger.groups.length width,
          .group ledger.groups.length (.anyOf alternatives)) := by
      simp [Frame.close, opener, opened, Frame.body, content, width]
    calc
      readFrames ledger frame outer (tokenize ('(' :: (text ++ [')']) ++ rest)) =
          readFrames ledger.openGroup filled (frame :: outer) (tokenize (')' :: rest)) := by
        rw [← step, ← begins]
        simp
      _ = _ := by
        rw [tokenize_plain (by decide), readFrames, settle_tokenize calm.settled]
        simp [closed, Frame.push_eq_extend]

/-! ### Alternatives of a pattern -/

section Alternatives

variable {ι : Type} {text : ι → List Char} {count : ι → Nat} {row : ι → Nat → List Node}

/-- The alternatives for some items, given the count of groups before them. -/
def alternativesFrom (count : ι → Nat) (row : ι → Nat → List Node) (before : Nat) :
    List ι → List Node
  | [] => []
  | item :: items =>
    .sequence (row item before) :: alternativesFrom count row (before + count item) items

theorem readFrames_bars (items : List ι) :
    (∀ item ∈ items, Adds (text item) (count item) (row item)) →
    ∀ (ledger : Ledger) (frame : Frame), frame.verbose = false → frame.opener = .plain →
      ∃ (after : Ledger) (filled : Frame), after.Extends ledger (items.map count).sum ∧
        filled.alternatives =
          frame.alternatives ++ alternativesFrom count row ledger.groups.length items ∧
        readFrames ledger frame [] (tokenize (barred (items.map text))) =
          .ok (after, filled, []) := by
  -- Each bar begins an alternative, so the frame is another one for the later items.
  induction items with
  | nil =>
    intro _ ledger frame _ _
    refine ⟨ledger, frame, ⟨rfl, rfl, rfl⟩, by simp [alternativesFrom], ?_⟩
    simp [barred, tokenize, readFrames]
  | cons item items ih =>
    intro adds ledger frame loose unconditional
    obtain ⟨first, others⟩ := List.forall_mem_cons.mp adds
    have later := calm_bars (items.map text)
    obtain ⟨middle, pieces, grown, parts, step⟩ :=
      first.extend ledger frame.nextBranch [] _ loose later
    obtain ⟨after, filled, grownMore, content, reached⟩ :=
      ih others middle (frame.nextBranch.extend pieces) loose unconditional
    refine ⟨after, filled, grownMore.trans grown, ?_, ?_⟩
    · rw [content, frame.alternatives_nextBranch_extend, parts, grown.groups]
      simp [alternativesFrom]
    · have bar : frame.isFullCondition = false := by simp [Frame.isFullCondition, unconditional]
      have inside := (first.calm.append later).settled
      rw [List.map_cons, barred, List.flatMap_cons, List.cons_append, ← barred,
        tokenize_plain (by decide), readFrames, settle_tokenize inside, bar]
      simp [step, reached]

/-- Texts with bars between them are the alternatives of a pattern. -/
theorem read_bars {items : List ι} (nonempty : items ≠ [])
    (adds : ∀ item ∈ items, Adds (text item) (count item) (row item)) :
    Parsed.read (['|'].intercalate (items.map text)) =
      .ok ⟨.anyOf (alternativesFrom count row 1 items), [], 1 + (items.map count).sum⟩ := by
  obtain ⟨item, items, rfl⟩ := List.exists_cons_of_ne_nil nonempty
  obtain ⟨first, others⟩ := List.forall_mem_cons.mp adds
  have later := calm_bars (items.map text)
  obtain ⟨middle, pieces, grown, parts, step⟩ := first.extend {} {} [] _ rfl later
  obtain ⟨after, filled, grownMore, content, reached⟩ :=
    readFrames_bars items others middle (({} : Frame).extend pieces) rfl rfl
  have all := grownMore.trans grown
  have body : filled.body = .anyOf (alternativesFrom count row 1 (item :: items)) := by
    have start : (({} : Frame).extend pieces).alternatives = [.sequence (row item 1)] := by
      have alone : pieces.map Piece.node = row item 1 := parts
      simp [Frame.alternatives, Frame.branch, Frame.extend, alone]
    rw [Frame.body, content, start, grown.groups]
    rfl
  rw [List.map_cons, intercalate_cons, ← barred, Parsed.read,
    settle_tokenize (first.calm.append later).settled, step, reached]
  simp [body, all.flags, all.conditions, all.groups]

end Alternatives

end Patternwright.Regex
