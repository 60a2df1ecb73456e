import Patternwright.Proofs.Pipeline.CharacterClass
import Patternwright.Proofs.Regex.Captures
import Patternwright.Proofs.Regex.Counts
import Patternwright.Shape.Card

/-!
# Patterns of card brands

The pattern of a brand is a row between two anchors: the digits that its numbers begin with, and a
count of further ones. One brand has a group that captures, so its row depends on the groups before
it. A filter puts bars between the patterns of its brands, which are then alternatives.

## Main definitions

* `CardBrand.row` — the pattern of a brand, given the count of groups before it

## Main results

* `CardBrand.adds_pattern` — the pattern of a brand reads as its row
* `CardBrand.read_anyOf` — the pattern of a filter reads as the rows of its brands
-/

namespace Patternwright.CardBrand

open Regex

/-! ### Rows -/

/-- A digit of ASCII. -/
def digit : Node := .char (inRanges [('0', '9')])

/-- One digit up to some other. -/
def upTo (first last : Char) : Node := .char (inRanges [(first, last)])

/-- One of some characters. -/
def oneOf (choices : List Char) : Node := .char (.set false (choices.map fun c => .one c.toNat))

/-- A digit of any script. -/
def anyDigit : Node := .char (.set false [.named false .digit])

/-- A part a certain count of times. -/
def times (count : Nat) (node : Node) : Node := .rep .greedy count (some count) node

/-- What the pattern of a brand has between its anchors, given the count of groups before it. -/
def content : CardBrand → (before : Nat) → List Node
  | visa, _ => literals "4".toList ++ [times 12 digit] ++ [.rep .greedy 0 (some 1) (times 3 digit)]
  | mastercard, _ => literals "5".toList ++ [upTo '1' '5'] ++ [times 14 digit]
  | amex, _ => literals "3".toList ++ [oneOf ['4', '7']] ++ [times 13 digit]
  | discover, _ =>
    literals "6".toList ++ [.anyOf [.sequence (literals "011".toList),
      .sequence (literals "5".toList ++ [times 2 digit])]] ++ [times 12 digit]
  | jcb, _ =>
    [.anyOf [.sequence (literals "2131".toList), .sequence (literals "1800".toList),
      .sequence (literals "35".toList ++ [times 3 anyDigit])]] ++ [times 11 anyDigit]
  | dinersClub, _ =>
    literals "3".toList ++ [.anyOf [.sequence (literals "0".toList ++ [upTo '0' '5']),
      .sequence ([oneOf ['6', '8']] ++ [digit])]] ++ [times 11 anyDigit]
  | enRoute, before =>
    literals "2".toList ++ [.group before (.anyOf [.sequence (literals "014".toList),
      .sequence (literals "149".toList)])] ++ [times 11 anyDigit]
  | unionPay, _ => literals "62".toList ++ [.rep .greedy 14 (some 17) digit]

/-- The pattern of a brand as a row, given the count of groups before it. -/
def row (brand : CardBrand) (before : Nat) : List Node :=
  .anchor .lineStart :: (brand.content before ++ [.anchor .lineEnd])

/-- How many groups of a brand capture. -/
def groupCount : CardBrand → Nat
  | enRoute => 1
  | _ => 0

/-! ### Texts -/

theorem readsAtom_upTo {first last : Char} (plain : isPlainRange (first, last) = true)
    (opening : first ≠ '^') : ReadsAtom ['[', first, '-', last, ']'] (upTo first last) := by
  have all : [(first, last)].all isPlainRange = true := by simpa using plain
  exact readsAtom_ranges all (by simpa [rangesText] using opening) (by simp) (by simp)

theorem readsAtom_digit : ReadsAtom "[0-9]".toList digit := readsAtom_upTo rfl (by decide)

theorem readsAtom_oneOf {first second : Char} (plain : [first, second].all isPlainMember = true)
    (opening : first ≠ '^') (distinct : first.toNat ≠ second.toNat) :
    ReadsAtom ['[', first, second, ']'] (oneOf [first, second]) := by
  refine (readsMembers_run [first, second] plain).readsAtom_set (by simpa using opening) (by simp)
    (by simp) ?_
  simpa using distinct

theorem readsAtom_anyDigit : ReadsAtom "\\d".toList anyDigit := by
  refine ⟨calm_escaped 'd' [], fun ledger frame outer rest loose settled => ?_⟩
  exact readFrames_escaped settled rfl (resume_self _)

theorem reads_counted {text : List Char} {node : Node} (atom : ReadsAtom text node)
    (braces : Braces) (small : ∀ count ∈ braces.counts, 0 ≤ count ∧ count < 100)
    (usable : braces.bounds.fault? = none) :
    Reads (text ++ braces.text) [.rep .greedy braces.bounds.least braces.bounds.most node] :=
  atom.reads_repeated (Braces.repeats_small small usable) (atom.calm.append (calm_cons rfl))

theorem reads_times {text : List Char} {node : Node} (atom : ReadsAtom text node) (count : Nat)
    (small : count < 100) : Reads (text ++ (Braces.exactly count).text) [times count node] := by
  refine reads_counted atom (.exactly count) (by simpa [Braces.counts] using small) ?_
  have below : count < countLimit := small.trans (by decide)
  simp [Braces.bounds, Bounds.fault?, below]

/-- Texts with bars between them fill a group. -/
theorem fills_choices {choices : List (List Char × List Node)} (nonempty : choices ≠ [])
    (reads : ∀ choice ∈ choices, Reads choice.1 choice.2) :
    Fills (['|'].intercalate (choices.map Prod.fst))
      (choices.map fun choice => .sequence choice.2) :=
  fills_bars nonempty reads

/-- A row between anchors, as they stand in a pattern. -/
theorem adds_between {text : List Char} {count : Nat} {inside : Nat → List Node}
    (adds : Adds text count inside) :
    Adds ('^' :: (text ++ ['$'])) count fun before =>
      .anchor .lineStart :: (inside before ++ [.anchor .lineEnd]) := by
  have start : Reads ['^'] [.anchor .lineStart] := reads_anchor (.inl ⟨rfl, rfl⟩)
  have ending : Reads ['$'] [.anchor .lineEnd] := reads_anchor (.inr ⟨rfl, rfl⟩)
  simpa using start.adds.append (adds.append ending.adds)

/-- What a brand has between its anchors is what stands there in its pattern. -/
theorem exists_adds_content (brand : CardBrand) :
    ∃ text, brand.pattern.toList = '^' :: (text ++ ['$']) ∧
      Adds text brand.groupCount brand.content := by
  -- The text is whatever the parts add up to, and `rfl` compares it with the pattern.
  have eleven := reads_times readsAtom_anyDigit 11 (by decide)
  cases brand with
  | visa =>
    have first := reads_escape "4".toList
    have digits := reads_times readsAtom_digit 12 (by decide)
    have more := reads_times readsAtom_digit 3 (by decide)
    have last := (more.fills.readsAtom_group marks_plain).reads_repeated repeats_question
      (calm_cons rfl)
    exact ⟨_, rfl, ((first.append digits).append last).adds⟩
  | mastercard =>
    have first := reads_escape "5".toList
    have second := (readsAtom_upTo rfl (by decide) : ReadsAtom _ (upTo '1' '5')).reads
    have digits := reads_times readsAtom_digit 14 (by decide)
    exact ⟨_, rfl, ((first.append second).append digits).adds⟩
  | amex =>
    have first := reads_escape "3".toList
    have second := (readsAtom_oneOf rfl (by decide) (by decide) :
      ReadsAtom _ (oneOf ['4', '7'])).reads
    have digits := reads_times readsAtom_digit 13 (by decide)
    exact ⟨_, rfl, ((first.append second).append digits).adds⟩
  | discover =>
    have first := reads_escape "6".toList
    have pair := reads_times readsAtom_digit 2 (by decide)
    have choices := fills_choices (List.cons_ne_nil (_, _) [(_, _)])
      (List.forall_mem_cons.mpr ⟨reads_escape "011".toList,
        List.forall_mem_singleton.mpr ((reads_escape "5".toList).append pair)⟩)
    have digits := reads_times readsAtom_digit 12 (by decide)
    have middle := (choices.readsAtom_group marks_plain).reads
    exact ⟨_, rfl, ((first.append middle).append digits).adds⟩
  | jcb =>
    have three := reads_times readsAtom_anyDigit 3 (by decide)
    have choices := fills_choices (List.cons_ne_nil (_, _) [(_, _), (_, _)])
      (List.forall_mem_cons.mpr ⟨reads_escape "2131".toList,
        List.forall_mem_cons.mpr ⟨reads_escape "1800".toList,
          List.forall_mem_singleton.mpr ((reads_escape "35".toList).append three)⟩⟩)
    exact ⟨_, rfl, ((choices.readsAtom_group marks_plain).reads.append eleven).adds⟩
  | dinersClub =>
    have low := (readsAtom_upTo rfl (by decide) : ReadsAtom _ (upTo '0' '5')).reads
    have either := (readsAtom_oneOf rfl (by decide) (by decide) :
      ReadsAtom _ (oneOf ['6', '8'])).reads
    have choices := fills_choices (List.cons_ne_nil (_, _) [(_, _)])
      (List.forall_mem_cons.mpr ⟨(reads_escape "0".toList).append low,
        List.forall_mem_singleton.mpr (either.append readsAtom_digit.reads)⟩)
    have first := (reads_escape "3".toList).append (choices.readsAtom_group marks_plain).reads
    exact ⟨_, rfl, (first.append eleven).adds⟩
  | enRoute =>
    have choices := fills_choices (List.cons_ne_nil (_, _) [(_, _)])
      (List.forall_mem_cons.mpr ⟨reads_escape "014".toList,
        List.forall_mem_singleton.mpr (reads_escape "149".toList)⟩)
    have first := (reads_escape "2".toList).adds.append (choices.adds_group (by decide))
    exact ⟨_, rfl, first.append eleven.adds⟩
  | unionPay =>
    have first := reads_escape "62".toList
    have digits := reads_counted readsAtom_digit (.between 14 (some 17)) (by decide) rfl
    exact ⟨_, rfl, (first.append digits).adds⟩

/-- The pattern of a brand reads as its row. -/
theorem adds_pattern (brand : CardBrand) :
    Adds brand.pattern.toList brand.groupCount brand.row := by
  obtain ⟨text, written, adds⟩ := exists_adds_content brand
  rw [written]
  exact adds_between adds

/-- The pattern of a filter reads as the rows of its brands. -/
theorem read_anyOf {brands : List CardBrand} (nonempty : brands ≠ []) :
    Parsed.read (anyOf brands).toList =
      .ok ⟨.anyOf (alternativesFrom groupCount row 1 brands), [],
        1 + (brands.map groupCount).sum⟩ := by
  have written : (anyOf brands).toList =
      ['|'].intercalate (brands.map fun brand => brand.pattern.toList) := by
    simp [anyOf, Function.comp_def]
  rw [written]
  exact read_bars nonempty fun brand _ => adds_pattern brand

/-- No row of a brand has a part without the property. -/
theorem forall_alternativesFrom {Holds : Node → Prop}
    (holds : ∀ (brand : CardBrand) (before : Nat), Holds (.sequence (brand.row before)))
    (brands : List CardBrand) :
    ∀ before, ∀ node ∈ alternativesFrom groupCount row before brands, Holds node := by
  induction brands with
  | nil => simp [alternativesFrom]
  | cons brand brands ih =>
    exact fun before => List.forall_mem_cons.mpr ⟨holds brand before, ih _⟩

end Patternwright.CardBrand
