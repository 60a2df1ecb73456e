import Mathlib.Data.Set.Prod
import Patternwright.Proofs.Shape.Fragment

/-!
# Forms of addresses

The pattern of an address lists its forms one by one. Read as a fragment, it has a language that can
be told in terms of groups of hexadecimal digits: runs of groups with a colon between each two, and
gaps, where groups are left out between two colons. Three more forms have a zone or end with a
dotted address.

Two things about the forms are not what one would expect. A run may be short of its eight groups,
and a gap has no form with one group on its left and six on its right: the form that stands where
this one belongs has only one colon behind its first group.

## Main definitions

* `Address.IsGroup`, `Address.IsRun`, `Address.IsGap` — groups, and words that are made of them
* `Address.parts` — the forms as fragments

## Main results

* `Address.mem_parts_iff` — the words of the forms
* `Address.accepts_iff_groups` — the texts without a zone or a dotted address that are accepted
-/

namespace Patternwright.Address

open Regex

/-! ### Groups -/

/-- The character is a hexadecimal digit. -/
def IsHexDigit (c : Char) : Prop :=
  ('0' ≤ c ∧ c ≤ '9') ∨ ('a' ≤ c ∧ c ≤ 'f') ∨ ('A' ≤ c ∧ c ≤ 'F')

/-- One to four hexadecimal digits. -/
structure IsGroup (word : List Char) : Prop where
  enough : 1 ≤ word.length
  few : word.length ≤ 4
  digits : ∀ c ∈ word, IsHexDigit c

/-- Groups with a colon behind each. -/
def leads (groups : List (List Char)) : List Char := groups.flatMap (· ++ [':'])

/-- Groups with a colon before each. -/
def trails (groups : List (List Char)) : List Char := groups.flatMap (':' :: ·)

/-- Groups with a colon between each two. -/
def joined (groups : List (List Char)) : List Char := [':'].intercalate groups

/-- Groups on both sides of two colons. -/
def parted (left right : List (List Char)) : List Char :=
  joined left ++ (':' :: ':' :: joined right)

/-- The word is a run of groups, as many as `counts` has it. -/
def IsRun (counts : Set Nat) (word : List Char) : Prop :=
  ∃ groups, (∀ group ∈ groups, IsGroup group) ∧ groups.length ∈ counts ∧ word = joined groups

/-- The word has groups on both sides of a gap, as many on the left and on the right as `counts`
has it. -/
def IsGap (counts : Set (Nat × Nat)) (word : List Char) : Prop :=
  ∃ left right, (∀ group ∈ left, IsGroup group) ∧ (∀ group ∈ right, IsGroup group) ∧
    (left.length, right.length) ∈ counts ∧ word = parted left right

theorem isRun_union {counts others : Set Nat} {word : List Char} :
    IsRun (counts ∪ others) word ↔ IsRun counts word ∨ IsRun others word := by
  simp only [IsRun, Set.mem_union, or_and_right, and_or_left, exists_or]

theorem isGap_union {counts others : Set (Nat × Nat)} {word : List Char} :
    IsGap (counts ∪ others) word ↔ IsGap counts word ∨ IsGap others word := by
  simp only [IsGap, Set.mem_union, or_and_right, and_or_left, exists_or]

theorem joined_cons (first : List Char) (groups : List (List Char)) :
    joined (first :: groups) = first ++ trails groups :=
  intercalate_cons ':' first groups

theorem joined_append_last (groups : List (List Char)) (last : List Char) :
    joined (groups ++ [last]) = leads groups ++ last := by
  induction groups with
  | nil => simp [joined, leads]
  | cons group groups ih =>
    -- Behind the first group stand a colon and a run again.
    obtain ⟨next, others, split⟩ : ∃ next others, groups ++ [last] = next :: others :=
      List.exists_cons_of_ne_nil (by simp)
    have later : trails (groups ++ [last]) = ':' :: joined (groups ++ [last]) := by
      rw [split, joined_cons]
      rfl
    rw [List.cons_append, joined_cons, later, ih]
    simp [leads]

theorem leads_eq {groups : List (List Char)} (nonempty : groups ≠ []) :
    leads groups = joined groups ++ [':'] := by
  obtain ⟨others, last, rfl⟩ := groups.eq_nil_or_concat'.resolve_left nonempty
  rw [joined_append_last]
  simp [leads]

theorem trails_eq {groups : List (List Char)} (nonempty : groups ≠ []) :
    trails groups = ':' :: joined groups := by
  obtain ⟨first, groups, rfl⟩ := List.exists_cons_of_ne_nil nonempty
  rw [joined_cons]
  rfl

theorem length_le_trails (groups : List (List Char)) : groups.length ≤ (trails groups).length := by
  induction groups with
  | nil => exact Nat.le_refl 0
  | cons group groups ih =>
    have split : trails (group :: groups) = ':' :: (group ++ trails groups) := rfl
    rw [split, List.length_cons, List.length_cons, List.length_append]
    omega

/-! ### Parts of the pattern -/

/-- One digit up to some other. -/
def upTo (last : Char) (plain : isPlainRange ('0', last) = true) : Atom :=
  .ofRanges [('0', last)] (by simpa using plain) (by simp [rangesText]) (by simp) (by simp)

def hexDigit : Atom :=
  .ofRanges [('0', '9'), ('a', 'f'), ('A', 'F')] (by decide) (by decide) (by decide) (by decide)

def colon : Fragment := .literal [':']

def groupPart : Fragment := hexDigit.counted (.between 1 (some 4)) (by decide) rfl

def leadingPart : Atom := .ofAlternatives [groupPart ++ colon] (by simp)

def trailingPart : Atom := .ofAlternatives [colon ++ groupPart] (by simp)

def octetPart : Atom :=
  .ofAlternatives
    [.literal ['2', '5'] ++ (upTo '5' rfl).alone,
      .literal ['2'] ++ (upTo '4' rfl).alone ++ (upTo '9' rfl).alone,
      (upTo '1' rfl).optional ++ (upTo '9' rfl).alone ++ (upTo '9' rfl).optional]
    (by simp)

def dottedPart : Fragment :=
  octetPart.alone ++ .literal ['.'] ++ octetPart.alone ++ .literal ['.'] ++ octetPart.alone ++
    .literal ['.'] ++ octetPart.alone

/-- What a gap at the beginning goes on with: groups or nothing. -/
def afterGapPart : Atom :=
  .ofAlternatives [trailingPart.counted (.between 1 (some 7)) (by decide) rfl, colon] (by simp)

/-- A local address with a zone. -/
def zonedPart : Fragment :=
  .literal ['f', 'e', '8', '0', ':'] ++
    (Atom.ofAlternatives [colon ++ hexDigit.counted (.between 0 (some 4)) (by decide) rfl]
      (by simp)).counted (.between 0 (some 4)) (by decide) rfl ++
    .literal ['%'] ++
    (Atom.ofRanges [('0', '9'), ('a', 'z'), ('A', 'Z')] (by decide) (by decide) (by decide)
      (by decide)).many

/-- What stands before a dotted address that takes the place of the last two groups. -/
def mappedPart : Fragment :=
  .literal [':', ':'] ++
    (Atom.ofAlternatives
      [.literal ['f', 'f', 'f', 'f'] ++
        (Atom.ofAlternatives
          [colon ++ (Atom.ofChar '0' (by decide)).counted (.between 1 (some 4)) (by decide) rfl]
          (by simp)).optional ++
        colon]
      (by simp)).optional

/-- The forms of an address, each as a fragment. -/
def parts : List Fragment := [
  leadingPart.counted (.exactly 7) (by decide) rfl ++ groupPart,
  leadingPart.counted (.between 1 (some 7)) (by decide) rfl ++ colon,
  leadingPart.counted (.between 1 (some 6)) (by decide) rfl ++ colon ++ groupPart,
  leadingPart.counted (.between 1 (some 5)) (by decide) rfl ++
    trailingPart.counted (.between 1 (some 2)) (by decide) rfl,
  leadingPart.counted (.between 1 (some 4)) (by decide) rfl ++
    trailingPart.counted (.between 1 (some 3)) (by decide) rfl,
  leadingPart.counted (.between 1 (some 3)) (by decide) rfl ++
    trailingPart.counted (.between 1 (some 4)) (by decide) rfl,
  leadingPart.counted (.between 1 (some 2)) (by decide) rfl ++
    trailingPart.counted (.between 1 (some 5)) (by decide) rfl,
  groupPart ++ trailingPart.counted (.between 1 (some 6)) (by decide) rfl,
  colon ++ afterGapPart.alone,
  zonedPart,
  mappedPart ++ dottedPart,
  leadingPart.counted (.between 1 (some 4)) (by decide) rfl ++ colon ++ dottedPart]

theorem toList_group : group.toList = groupPart.text := by rfl

theorem toList_leading : leading.toList = leadingPart.text := by
  simp only [leading, String.toList_append, toList_group]
  rfl

theorem toList_trailing : trailing.toList = trailingPart.text := by
  simp only [trailing, String.toList_append, toList_group]
  rfl

theorem toList_octet : octet.toList = octetPart.text := by rfl

theorem toList_dotted : dotted.toList = dottedPart.text := by
  simp only [dotted, String.toList_append, toList_octet]
  rfl

theorem toList_forms : forms.map String.toList = parts.map Fragment.text := by
  -- Only the glue is rewritten: the pieces of text between the parts are the same on both sides.
  simp only [forms, List.map_cons, List.map_nil, String.toList_append, toList_group,
    toList_leading, toList_trailing, toList_dotted]
  rfl

/-- The pattern of an address has its forms between two anchors. -/
theorem toList_pattern :
    pattern.toList = '^' :: ((Atom.ofAlternatives parts (by simp [parts])).alone.text ++ ['$']) := by
  have inside : ("|".intercalate forms).toList = ['|'].intercalate (parts.map Fragment.text) := by
    rw [← toList_forms]
    simp
  have text : (Atom.ofAlternatives parts (by simp [parts])).alone.text =
      '(' :: '?' :: ':' :: (['|'].intercalate (parts.map Fragment.text) ++ [')']) := rfl
  rw [text, pattern, String.toList_append, String.toList_append, inside]
  simp

/-! ### Languages of the parts -/

theorem mem_hexDigit (word : List Char) :
    word ∈ hexDigit.language ↔ ∃ c, IsHexDigit c ∧ word = [c] := by
  rw [hexDigit, Atom.mem_ofRanges]
  refine exists_congr fun c => and_comm.trans (and_congr_left' ?_)
  simp [IsHexDigit]

theorem mem_groupPart (word : List Char) : word ∈ groupPart.language ↔ IsGroup word := by
  refine (mem_repeated_between mem_hexDigit).trans ?_
  simp only [List.flatMap_singleton']
  constructor
  · rintro ⟨_, digits, ⟨enough, few⟩, rfl⟩
    exact ⟨enough, few, digits⟩
  · intro group
    exact ⟨word, group.digits, ⟨group.enough, group.few⟩, rfl⟩

theorem mem_colon {word : List Char} : word ∈ colon.language ↔ word = [':'] := Iff.rfl

theorem mem_leadingPart (word : List Char) :
    word ∈ leadingPart.language ↔ ∃ group, IsGroup group ∧ word = group ++ [':'] := by
  simp only [leadingPart, Atom.mem_ofAlternatives, List.mem_singleton, exists_eq_left,
    Fragment.mem_append, mem_colon, mem_groupPart]
  constructor
  · rintro ⟨group, _, rfl, holds, rfl⟩
    exact ⟨group, holds, rfl⟩
  · rintro ⟨group, holds, rfl⟩
    exact ⟨group, _, rfl, holds, rfl⟩

theorem mem_trailingPart (word : List Char) :
    word ∈ trailingPart.language ↔ ∃ group, IsGroup group ∧ word = ':' :: group := by
  simp only [trailingPart, Atom.mem_ofAlternatives, List.mem_singleton, exists_eq_left,
    Fragment.mem_append, mem_colon, mem_groupPart]
  constructor
  · rintro ⟨_, group, rfl, rfl, holds⟩
    exact ⟨group, holds, rfl⟩
  · rintro ⟨group, holds, rfl⟩
    exact ⟨_, group, rfl, rfl, holds⟩

theorem mem_leads {least most : Nat} {word : List Char} :
    word ∈ repeated leadingPart.language ⟨least, some most⟩ ↔
      ∃ groups, (∀ group ∈ groups, IsGroup group) ∧ groups.length ∈ Set.Icc least most ∧
        word = leads groups :=
  mem_repeated_between mem_leadingPart

theorem mem_trails {least most : Nat} {word : List Char} :
    word ∈ repeated trailingPart.language ⟨least, some most⟩ ↔
      ∃ groups, (∀ group ∈ groups, IsGroup group) ∧ groups.length ∈ Set.Icc least most ∧
        word = trails groups :=
  mem_repeated_between mem_trailingPart

/-! ### Runs and gaps -/

theorem ne_nil_of_length_mem {groups : List (List Char)} {least most : Nat} (positive : 0 < least)
    (counts : groups.length ∈ Set.Icc least most) : groups ≠ [] :=
  List.length_pos_iff.mp (positive.trans_le counts.1)

/-- Groups with colons behind them and one more group are a run. -/
theorem mem_leads_group {least most : Nat} {word : List Char} :
    word ∈ repeated leadingPart.language ⟨least, some most⟩ * groupPart.language ↔
      IsRun (Set.Icc (least + 1) (most + 1)) word := by
  simp only [mem_mul_iff, mem_leads, mem_groupPart]
  constructor
  · rintro ⟨_, last, rfl, ⟨groups, all, counts, rfl⟩, holds⟩
    refine ⟨groups ++ [last], ?_, by simpa using counts, (joined_append_last groups last).symm⟩
    simpa [or_imp, forall_and] using ⟨all, holds⟩
  · rintro ⟨groups, all, counts, rfl⟩
    have nonempty := ne_nil_of_length_mem least.succ_pos counts
    obtain ⟨others, last, rfl⟩ := groups.eq_nil_or_concat'.resolve_left nonempty
    refine ⟨leads others, last, joined_append_last others last,
      ⟨others, fun group member => all group (List.mem_append_left _ member), ?_, rfl⟩,
      all last (by simp)⟩
    simpa using counts

/-- A group and more groups with colons before them are a run. -/
theorem mem_group_trails {least most : Nat} {word : List Char} :
    word ∈ groupPart.language * repeated trailingPart.language ⟨least, some most⟩ ↔
      IsRun (Set.Icc (least + 1) (most + 1)) word := by
  simp only [mem_mul_iff, mem_trails, mem_groupPart]
  constructor
  · rintro ⟨first, _, rfl, holds, groups, all, counts, rfl⟩
    exact ⟨first :: groups, List.forall_mem_cons.mpr ⟨holds, all⟩, by simpa using counts,
      (joined_cons first groups).symm⟩
  · rintro ⟨groups, all, counts, rfl⟩
    have nonempty := ne_nil_of_length_mem least.succ_pos counts
    obtain ⟨first, others, rfl⟩ := List.exists_cons_of_ne_nil nonempty
    obtain ⟨holds, later⟩ := List.forall_mem_cons.mp all
    exact ⟨first, trails others, joined_cons first others, holds, others, later,
      by simpa using counts, rfl⟩

theorem parted_eq {left right : List (List Char)} (before : left ≠ []) (after : right ≠ []) :
    parted left right = leads left ++ trails right := by
  rw [parted, leads_eq before, trails_eq after]
  simp

theorem parted_nil_right {left : List (List Char)} (before : left ≠ []) :
    parted left [] = leads left ++ [':'] := by
  rw [parted, leads_eq before]
  simp [joined]

theorem parted_nil_left {right : List (List Char)} (after : right ≠ []) :
    parted [] right = ':' :: trails right := by
  rw [parted, trails_eq after]
  simp [joined]

/-- A gap between groups. -/
theorem mem_leads_trails {least most least' most' : Nat} {word : List Char} (before : 0 < least)
    (after : 0 < least') :
    word ∈ repeated leadingPart.language ⟨least, some most⟩ *
        repeated trailingPart.language ⟨least', some most'⟩ ↔
      IsGap (Set.Icc least most ×ˢ Set.Icc least' most') word := by
  simp only [mem_mul_iff, mem_leads, mem_trails]
  constructor
  · rintro ⟨_, _, rfl, ⟨groups, all, counts, rfl⟩, others, later, counts', rfl⟩
    exact ⟨groups, others, all, later, ⟨counts, counts'⟩,
      (parted_eq (ne_nil_of_length_mem before counts) (ne_nil_of_length_mem after counts')).symm⟩
  · rintro ⟨groups, others, all, later, ⟨counts, counts'⟩, rfl⟩
    exact ⟨leads groups, trails others,
      parted_eq (ne_nil_of_length_mem before counts) (ne_nil_of_length_mem after counts'),
      ⟨groups, all, counts, rfl⟩, others, later, counts', rfl⟩

/-- A gap at the end. -/
theorem mem_leads_colon {least most : Nat} {word : List Char} (before : 0 < least) :
    word ∈ repeated leadingPart.language ⟨least, some most⟩ * colon.language ↔
      IsGap (Set.Icc least most ×ˢ {0}) word := by
  simp only [mem_mul_iff, mem_leads, mem_colon]
  constructor
  · rintro ⟨_, _, rfl, ⟨groups, all, counts, rfl⟩, rfl⟩
    exact ⟨groups, [], all, by simp, ⟨counts, rfl⟩,
      (parted_nil_right (ne_nil_of_length_mem before counts)).symm⟩
  · rintro ⟨groups, others, all, -, ⟨counts, none'⟩, rfl⟩
    obtain rfl : others = [] := List.length_eq_zero_iff.mp none'
    exact ⟨leads groups, [':'], parted_nil_right (ne_nil_of_length_mem before counts),
      ⟨groups, all, counts, rfl⟩, rfl⟩

/-- A gap before the last group. -/
theorem mem_leads_colon_group {least most : Nat} {word : List Char} (before : 0 < least) :
    word ∈ repeated leadingPart.language ⟨least, some most⟩ * colon.language *
        groupPart.language ↔
      IsGap (Set.Icc least most ×ˢ {1}) word := by
  simp only [mem_mul_iff, mem_leads, mem_colon, mem_groupPart]
  constructor
  · rintro ⟨_, last, rfl, ⟨_, _, rfl, ⟨groups, all, counts, rfl⟩, rfl⟩, holds⟩
    refine ⟨groups, [last], all, by simpa using holds, ⟨counts, rfl⟩, ?_⟩
    rw [parted_eq (ne_nil_of_length_mem before counts) (by simp)]
    simp [trails]
  · rintro ⟨groups, others, all, later, ⟨counts, single⟩, rfl⟩
    obtain ⟨last, rfl⟩ := List.length_eq_one_iff.mp single
    refine ⟨leads groups ++ [':'], last, ?_, ⟨_, _, rfl, ⟨groups, all, counts, rfl⟩, rfl⟩,
      by simpa using later⟩
    rw [parted_eq (ne_nil_of_length_mem before counts) (by simp)]
    simp [trails]

theorem mem_afterGapPart {word : List Char} : word ∈ afterGapPart.language ↔
    word ∈ repeated trailingPart.language ⟨1, some 7⟩ ∨ word = [':'] := by
  simp only [afterGapPart, Atom.mem_ofAlternatives, List.mem_cons, List.not_mem_nil, or_false,
    exists_eq_or_imp, exists_eq_left]
  rfl

/-- A gap at the beginning. -/
theorem mem_colon_afterGap {word : List Char} :
    word ∈ colon.language * afterGapPart.language ↔ IsGap ({0} ×ˢ Set.Icc 0 7) word := by
  simp only [mem_mul_iff, mem_colon, mem_afterGapPart, mem_trails]
  constructor
  · rintro ⟨_, _, rfl, rfl, ⟨groups, all, counts, rfl⟩ | rfl⟩
    · refine ⟨[], groups, by simp, all, ⟨rfl, Nat.zero_le _, counts.2⟩, ?_⟩
      rw [parted_nil_left (ne_nil_of_length_mem Nat.one_pos counts)]
      rfl
    · exact ⟨[], [], by simp, by simp, by simp, rfl⟩
  · rintro ⟨groups, others, -, all, ⟨none', counts⟩, rfl⟩
    obtain rfl : groups = [] := List.length_eq_zero_iff.mp none'
    by_cases empty : others = []
    · subst empty
      exact ⟨[':'], [':'], rfl, rfl, .inr rfl⟩
    · exact ⟨[':'], trails others, parted_nil_left empty, rfl, .inl ⟨others, all,
        ⟨List.length_pos_iff.mpr empty, counts.2⟩, rfl⟩⟩

/-! ### The forms -/

/-- The words of each form, in their order. -/
theorem mem_parts_iff_forms {word : List Char} :
    (∃ part ∈ parts, word ∈ part.language) ↔
      IsRun (Set.Icc 8 8) word ∨
      IsGap (Set.Icc 1 7 ×ˢ {0}) word ∨
      IsGap (Set.Icc 1 6 ×ˢ {1}) word ∨
      IsGap (Set.Icc 1 5 ×ˢ Set.Icc 1 2) word ∨
      IsGap (Set.Icc 1 4 ×ˢ Set.Icc 1 3) word ∨
      IsGap (Set.Icc 1 3 ×ˢ Set.Icc 1 4) word ∨
      IsGap (Set.Icc 1 2 ×ˢ Set.Icc 1 5) word ∨
      IsRun (Set.Icc 2 7) word ∨
      IsGap ({0} ×ˢ Set.Icc 0 7) word ∨
      word ∈ zonedPart.language ∨
      word ∈ mappedPart.language * dottedPart.language ∨
      word ∈ repeated leadingPart.language ⟨1, some 4⟩ * colon.language *
        dottedPart.language := by
  simp only [parts, List.mem_cons, List.not_mem_nil, or_false, exists_eq_or_imp, exists_eq_left]
  refine or_congr mem_leads_group ?_
  refine or_congr (mem_leads_colon Nat.one_pos) ?_
  refine or_congr (mem_leads_colon_group Nat.one_pos) ?_
  refine or_congr (mem_leads_trails Nat.one_pos Nat.one_pos) ?_
  refine or_congr (mem_leads_trails Nat.one_pos Nat.one_pos) ?_
  refine or_congr (mem_leads_trails Nat.one_pos Nat.one_pos) ?_
  refine or_congr (mem_leads_trails Nat.one_pos Nat.one_pos) ?_
  -- Here a form with six groups behind a gap would belong, but it makes a run.
  refine or_congr mem_group_trails ?_
  exact or_congr mem_colon_afterGap Iff.rfl

/-- How many groups there may be on the two sides of a gap. -/
def gapCounts : Set (Nat × Nat) := {counts | counts.1 + counts.2 ≤ 7 ∧ counts ≠ (1, 6)}

theorem runCounts_eq : Set.Icc 2 8 = Set.Icc 8 8 ∪ Set.Icc 2 7 := by
  ext count
  simp only [Set.mem_Icc, Set.mem_union]
  omega

/-- The forms with a gap have all these counts between them. -/
theorem gapCounts_eq : gapCounts =
    Set.Icc 1 7 ×ˢ {0} ∪ Set.Icc 1 6 ×ˢ {1} ∪ Set.Icc 1 5 ×ˢ Set.Icc 1 2 ∪
      Set.Icc 1 4 ×ˢ Set.Icc 1 3 ∪ Set.Icc 1 3 ×ˢ Set.Icc 1 4 ∪ Set.Icc 1 2 ×ˢ Set.Icc 1 5 ∪
      {0} ×ˢ Set.Icc 0 7 := by
  -- A pair of counts is in one of the boxes or in none, which is arithmetic.
  ext ⟨before, after⟩
  simp only [gapCounts, Set.mem_ofPred_eq, ne_eq, Prod.mk.injEq, Set.mem_union, Set.mem_prod,
    Set.mem_Icc, Set.mem_singleton_iff]
  omega

/-- The words of the forms: runs and gaps, local addresses with a zone, and what ends with a dotted
address. -/
theorem mem_parts_iff {word : List Char} :
    (∃ part ∈ parts, word ∈ part.language) ↔
      IsRun (Set.Icc 2 8) word ∨ IsGap gapCounts word ∨ word ∈ zonedPart.language ∨
      word ∈ mappedPart.language * dottedPart.language ∨
      word ∈ repeated leadingPart.language ⟨1, some 4⟩ * colon.language *
        dottedPart.language := by
  rw [mem_parts_iff_forms, runCounts_eq, gapCounts_eq]
  -- The form of short runs stands among those of gaps, so the alternatives only change places.
  simp only [isRun_union, isGap_union]
  apply Iff.of_eq
  ac_rfl

theorem percent_mem_of_zonedPart {word : List Char} (member : word ∈ zonedPart.language) :
    '%' ∈ word := by
  obtain ⟨_, _, rfl, before, -⟩ := Fragment.mem_append.mp member
  obtain ⟨_, _, rfl, -, percent⟩ := Fragment.mem_append.mp before
  obtain rfl := Fragment.mem_literal.mp percent
  simp

theorem dot_mem_of_dottedPart {language : Language Char} {word : List Char}
    (member : word ∈ language * dottedPart.language) : '.' ∈ word := by
  obtain ⟨_, _, rfl, -, dotted⟩ := mem_mul_iff.mp member
  obtain ⟨_, _, rfl, before, -⟩ := Fragment.mem_append.mp dotted
  obtain ⟨_, _, rfl, -, dot⟩ := Fragment.mem_append.mp before
  obtain rfl := Fragment.mem_literal.mp dot
  simp

/-- Without a zone and a dotted address, an address is a run of groups or has a gap. -/
theorem mem_parts_iff_groups {word : List Char} (undotted : '.' ∉ word) (unzoned : '%' ∉ word) :
    (∃ part ∈ parts, word ∈ part.language) ↔
      IsRun (Set.Icc 2 8) word ∨ IsGap gapCounts word := by
  rw [mem_parts_iff]
  constructor
  · rintro (run | gap | zoned | mapped | embedded)
    · exact .inl run
    · exact .inr gap
    · exact (unzoned (percent_mem_of_zonedPart zoned)).elim
    · exact (undotted (dot_mem_of_dottedPart mapped)).elim
    · exact (undotted (dot_mem_of_dottedPart embedded)).elim
  · rintro (run | gap)
    · exact .inl run
    · exact .inr (.inl gap)

/-! ### Accepted texts -/

section Accepted

variable {config : Config} (shaped : Shape.select? config = some .ipv6)
  (cased : config.isOn .caseInsensitive = false) (singleLine : config.isOn .multiLine = false)

include shaped cased singleLine

/-- The accepted texts are the words of the forms, with or without a line break behind them. -/
theorem accepts_iff_mem_parts :
    ∃ matcher, Matcher.ofConfig config = .ok matcher ∧ ∀ text : String,
      matcher.accepts text = true ↔
        ∃ word, (∃ part ∈ parts, word ∈ part.language) ∧
          (text.toList = word ∨ text.toList = word ++ ['\n']) :=
  Shape.accepts_iff_language shaped rfl toList_pattern cased singleLine

/-- Without a zone, a dotted address and a line break, the accepted texts are the runs of two to
eight groups, and the gaps with up to seven groups around them but not one on the left and six on
the right. -/
theorem accepts_iff_groups :
    ∃ matcher, Matcher.ofConfig config = .ok matcher ∧ ∀ text : String,
      '.' ∉ text.toList → '%' ∉ text.toList → '\n' ∉ text.toList →
        (matcher.accepts text = true ↔
          IsRun (Set.Icc 2 8) text.toList ∨ IsGap gapCounts text.toList) := by
  obtain ⟨matcher, compiled, accepts⟩ := accepts_iff_mem_parts shaped cased singleLine
  refine ⟨matcher, compiled, fun text undotted unzoned unbroken => ?_⟩
  rw [accepts, ← mem_parts_iff_groups undotted unzoned]
  constructor
  · rintro ⟨word, member, same | broken⟩
    · exact same ▸ member
    · simp [broken] at unbroken
  · exact fun member => ⟨text.toList, member, .inl rfl⟩

end Accepted

/-- Nothing but an address is asked for. -/
def addressed : Config := Config.default.setScalar (.shape .ipv6) (.bool true)

theorem isRun_pair : IsRun (Set.Icc 2 8) "1:2".toList := by
  refine ⟨[['1'], ['2']], ?_, by decide, rfl⟩
  rintro group member
  have digit : group = ['1'] ∨ group = ['2'] := by simpa using member
  rcases digit with rfl | rfl
  · exact ⟨by decide, by decide, by simp [IsHexDigit]⟩
  · exact ⟨by decide, by decide, by simp [IsHexDigit]⟩

theorem accepts_iff_groups_addressed :
    Shape.select? addressed = some .ipv6 ∧ addressed.isOn .caseInsensitive = false ∧
      addressed.isOn .multiLine = false ∧
      ∃ matcher, Matcher.ofConfig addressed = .ok matcher ∧ '.' ∉ "1:2".toList ∧
        '%' ∉ "1:2".toList ∧ '\n' ∉ "1:2".toList ∧ matcher.accepts "1:2" = true := by
  have shaped : Shape.select? addressed = some .ipv6 := rfl
  obtain ⟨matcher, compiled, accepts⟩ := accepts_iff_groups shaped rfl rfl
  have undotted : '.' ∉ "1:2".toList := by decide
  have unzoned : '%' ∉ "1:2".toList := by decide
  have unbroken : '\n' ∉ "1:2".toList := by decide
  exact ⟨rfl, rfl, rfl, matcher, compiled, undotted, unzoned, unbroken,
    (accepts "1:2" undotted unzoned unbroken).mpr (.inl isRun_pair)⟩

/-- Two groups with a colon between them are no address, and yet they are accepted. -/
theorem not_accepts_iff_hexadecimal :
    ¬ ∀ (config : Config) (matcher : Matcher) (text : String),
      Shape.select? config = some .ipv6 → config.isOn .caseInsensitive = false →
      config.isOn .multiLine = false → config.isOn .dotAll = false →
      Matcher.ofConfig config = .ok matcher →
      '.' ∉ text.toList → '%' ∉ text.toList → '\n' ∉ text.toList →
      (matcher.accepts text = true ↔
        IsRun {8} text.toList ∨ IsGap {counts | counts.1 + counts.2 ≤ 7} text.toList) := by
  intro claimed
  have shaped : Shape.select? addressed = some .ipv6 := rfl
  obtain ⟨matcher, compiled, accepts⟩ := accepts_iff_mem_parts shaped rfl rfl
  have undotted : '.' ∉ "1:2".toList := by decide
  have unzoned : '%' ∉ "1:2".toList := by decide
  have accepted : matcher.accepts "1:2" = true := (accepts "1:2").mpr
    ⟨_, (mem_parts_iff_groups undotted unzoned).mpr (.inl isRun_pair), .inl rfl⟩
  rcases (claimed addressed matcher "1:2" rfl rfl rfl rfl compiled undotted unzoned
    (by decide)).mp accepted with ⟨groups, -, eight, same⟩ | ⟨left, right, -, -, -, same⟩
  · -- Eight groups have seven colons between them.
    obtain ⟨first, others, rfl⟩ : ∃ first others, groups = first :: others :=
      List.exists_cons_of_length_pos (eight ▸ Nat.succ_pos 7)
    have colons := length_le_trails others
    have length := congrArg List.length same
    rw [joined_cons, List.length_append] at length
    simp at eight length
    omega
  · have gap : [':', ':'] <:+: "1:2".toList := ⟨joined left, joined right, by simp [same, parted]⟩
    exact absurd gap (by decide)

end Patternwright.Address
