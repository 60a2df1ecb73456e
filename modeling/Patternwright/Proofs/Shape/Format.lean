import Mathlib
import Patternwright.Proofs.Shape.CardPattern
import Patternwright.Proofs.Shape.Written
import Patternwright.Proofs.Text.Replace

/-!
# Dates and times in a format

A format is a text with tokens, and its pattern has a fragment for each of them. Such a fragment is
written for numbers: a pair of digits is a number between two bounds, because each of its
alternatives takes the numbers of one or more tens. As no character of a token is in another token
or in a fragment, the format falls into tokens and other characters in one pass, and the pattern is
written for the words that this cut calls for.

The pattern has no anchors, so the words may stand anywhere in a text. The characters that a pattern
has a use for are left out of the format, but for the point, which keeps its meaning there.

## Main definitions

* `Format.Numeral` — the numbers that a token stands for
* `Format.Covers` — the words for a part of a format
* `Format.DigitTest` — a text for some digits in a row
* `Format.spans` — whether pairs of digits are the numbers between two bounds

## Main results

* `Format.isWrittenFor_pairs` — pairs of digits in a group are written for numbers
* `Format.exists_isWrittenFor_format` — a format with its tokens replaced is written for its words
* `Format.accepts_iff_covers` — the texts that a date or time with a format accepts
-/

namespace Patternwright.Format

open Regex Text

/-! ### What a format stands for -/

/-- A number with a fixed count of digits, from one bound to another. -/
structure Numeral where
  width : Nat
  low : Nat
  high : Nat
  deriving DecidableEq, Repr

/-- The word consists of so many digits, and its number is between the bounds. -/
structure Numeral.Covers (numeral : Numeral) (word : List Char) : Prop where
  width : word.length = numeral.width
  digits : ∀ c ∈ word, c.isDigit = true
  low : numeral.low ≤ Digit.numberOf 10 word
  high : Digit.numberOf 10 word ≤ numeral.high

/-- The tokens of a date and the numbers that they stand for. -/
def dateNumerals : List (String × Numeral) :=
  [("YYYY", ⟨4, 0, 9999⟩), ("MM", ⟨2, 1, 12⟩), ("DD", ⟨2, 1, 31⟩)]

/-- The tokens of a time and the numbers that they stand for. -/
def timeNumerals : List (String × Numeral) :=
  [("HH", ⟨2, 0, 23⟩), ("mm", ⟨2, 0, 59⟩), ("ss", ⟨2, 0, 59⟩)]

/-- The word is one for a part of a format. A point is any one character but a line break. -/
def Covers : Segment Numeral → List Char → Prop
  | .entry numeral, word => numeral.Covers word
  | .char '.', word => ∃ c, word = [c] ∧ c ≠ '\n'
  | .char c, word => word = [c]

/-- The characters of a format that are not part of the pattern as they are. -/
def signs : List Char := "\\^$*+?\x7b\x7d[]()|".toList

/-! ### Characters -/

theorem covers_char {c : Char} (other : c ≠ '.') {word : List Char} :
    Covers (.char c) word ↔ word = [c] := by
  unfold Covers
  split
  · next same => cases same
  · next same => exact absurd (Segment.char.inj same) other
  · next same => rw [Segment.char.inj same]

theorem not_isSign_of_not_mem_signs {c : Char} (plain : c ∉ signs) (other : c ≠ '.') :
    isSign c = false := by
  have known : ("\\[.^$?*+\x7b|()".toList.all fun d => d ∈ signs ∨ d = '.') = true := by decide
  rw [Bool.eq_false_iff]
  intro sign
  have inside := List.all_eq_true.mp known c (List.contains_iff_mem.mp sign)
  exact (of_decide_eq_true inside).elim plain other

/-- A character of a format stands for itself, but for the point. -/
theorem exists_isWrittenFor_char {c : Char} (plain : c ∉ signs) :
    ∃ row, IsWrittenFor [c] row (Covers (.char c)) := by
  by_cases point : c = '.'
  · subst point
    exact ⟨_, isWrittenFor_char readsAtom_dot rfl fun c _ => by simp [CharTest.accepts]⟩
  · have ordinary := not_isSign_of_not_mem_signs plain point
    have accepts (d : Char) (_ : d.toNat < 0x80) :
        (CharTest.one c.toNat).accepts {} d = true ↔ d = c := by
      simp [CharTest.accepts, literalAccepts, Char.toNat_inj]
    have written := isWrittenFor_char (readsAtom_ordinary ordinary) rfl accepts
    exact ⟨_, written.congr fun word _ => by simp [covers_char point]⟩

/-! ### Digits -/

theorem char_le_iff {c d : Char} : c ≤ d ↔ c.toNat ≤ d.toNat := Iff.rfl

/-- A text that adds a test of one character, which accepts the ASCII digits from one to another. -/
structure DigitTest where
  text : List Char
  test : CharTest
  first : Char
  last : Char
  reads : ReadsAtom text (.char test)
  plain : test.isPlain = true
  accepts : ∀ c : Char, c.toNat < 0x80 → (test.accepts {} c = true ↔ first ≤ c ∧ c ≤ last)
  digits : '0' ≤ first ∧ first ≤ last ∧ last ≤ '9'

namespace DigitTest

/-- Any digit. -/
def any : DigitTest where
  text := "\\d".toList
  test := .set false [.named false .digit]
  first := '0'
  last := '9'
  reads := CardBrand.readsAtom_anyDigit
  plain := rfl
  accepts c ascii := by
    simp [CharTest.accepts, setContains, SetItem.contains, Category.contains, Unicode.isDecimal,
      ascii, Char.le_def, UInt32.le_iff_toNat_le]
  digits := by decide

/-- One certain digit. -/
def exactly (c : Char) (digit : '0' ≤ c ∧ c ≤ '9') (ordinary : isSign c = false) : DigitTest where
  text := [c]
  test := .one c.toNat
  first := c
  last := c
  reads := readsAtom_ordinary ordinary
  plain := rfl
  accepts d _ := by
    simp only [CharTest.accepts, literalAccepts, Bool.false_and, Bool.false_eq_true, ↓reduceIte,
      beq_iff_eq, Char.toNat_inj]
    exact ⟨fun same => same ▸ ⟨Char.le_refl d, Char.le_refl d⟩,
      fun between => Char.le_antisymm between.2 between.1⟩
  digits := ⟨digit.1, Char.le_refl c, digit.2⟩

/-- One digit from one to another. -/
def range (first last : Char) (digits : '0' ≤ first ∧ first ≤ last ∧ last ≤ '9')
    (plain : isPlainRange (first, last) = true) (opening : first ≠ '^') : DigitTest where
  text := ['[', first, '-', last, ']']
  test := inRanges [(first, last)]
  first := first
  last := last
  reads := CardBrand.readsAtom_upTo plain opening
  plain := by
    have small : last.toNat ≤ '9'.toNat := digits.2.2
    simpa [inRanges, CharTest.isPlain, SetItem.isPlain] using small.trans (by decide)
  accepts c _ := by simp [accepts_inRanges_iff]
  digits := digits

/-- One of two digits one behind the other. -/
def either (first last : Char) (digits : '0' ≤ first ∧ first ≤ last ∧ last ≤ '9')
    (plain : [first, last].all isPlainMember = true) (opening : first ≠ '^')
    (next : last.toNat = first.toNat + 1) : DigitTest where
  text := ['[', first, last, ']']
  test := .set false ([first, last].map fun c : Char => .one c.toNat)
  first := first
  last := last
  reads := CardBrand.readsAtom_oneOf plain opening (by omega)
  plain := by
    have small : last.toNat ≤ '9'.toNat := digits.2.2
    have limit : '9'.toNat ≤ basicPlaneEnd := by decide
    simp only [CharTest.isPlain, SetItem.isPlain, List.map_cons, List.map_nil, List.all_cons,
      List.all_nil, Bool.and_true, Bool.and_eq_true, decide_eq_true_eq]
    omega
  accepts c _ := by
    have listed :
        (CharTest.set false ([first, last].map fun c : Char => .one c.toNat)).accepts {} c = true ↔
          c.toNat = first.toNat ∨ c.toNat = last.toNat := by
      simp [CharTest.accepts, setContains, SetItem.contains]
    rw [listed, char_le_iff, char_le_iff]
    omega
  digits := digits

/-- The test accepts the digit. -/
def Holds (digit : DigitTest) (c : Char) : Prop := digit.first ≤ c ∧ c ≤ digit.last

end DigitTest

theorem isDigit_iff {c : Char} : c.isDigit = true ↔ '0' ≤ c ∧ c ≤ '9' := by
  simp [Char.isDigit, char_le_iff, UInt32.le_iff_toNat_le]

theorem toNat_mem_of_isDigit {c : Char} (digit : c.isDigit = true) :
    c.toNat ∈ List.range' '0'.toNat 10 := by
  have between := isDigit_iff.mp digit
  have last : '9'.toNat = '0'.toNat + 9 := rfl
  simp only [char_le_iff] at between
  exact List.mem_range'_1.mpr (by omega)

theorem DigitTest.Holds.isDigit {digit : DigitTest} {c : Char} (holds : digit.Holds c) :
    c.isDigit = true :=
  isDigit_iff.mpr ⟨Char.le_trans digit.digits.1 holds.1, Char.le_trans holds.2 digit.digits.2.2⟩

/-- The value of a digit. -/
def digitValue (c : Char) : Nat := c.toNat - '0'.toNat

theorem digitValue_lt {c : Char} (digit : c.isDigit = true) : digitValue c < 10 := by
  have known := isDigit_iff.mp digit
  simp only [digitValue, char_le_iff] at *
  have last : '9'.toNat = '0'.toNat + 9 := rfl
  omega

theorem DigitTest.holds_iff (digit : DigitTest) {c : Char} (isDigit : c.isDigit = true) :
    digit.Holds c ↔
      digitValue digit.first ≤ digitValue c ∧ digitValue c ≤ digitValue digit.last := by
  obtain ⟨low, between, high⟩ := digit.digits
  have known := isDigit_iff.mp isDigit
  simp only [Holds, digitValue, char_le_iff] at *
  omega

/-! ### Numbers of two digits -/

theorem numberOf_concat (word : List Char) {c : Char} (digit : c.isDigit = true) :
    Digit.numberOf 10 (word ++ [c]) = Digit.numberOf 10 word * 10 + digitValue c := by
  simp [Digit.numberOf, Digit.number, value?_of_isDigit digit, digitValue]

/-- A number is below the power of ten for the count of its digits. -/
theorem numberOf_lt (word : List Char) :
    (∀ c ∈ word, c.isDigit = true) → Digit.numberOf 10 word < 10 ^ word.length := by
  -- The last digit adds less than ten to ten times the number before it.
  induction word using List.reverseRecOn with
  | nil => exact fun _ => by decide
  | append_singleton word c ih =>
    intro digits
    obtain ⟨before, last⟩ := List.forall_mem_append.mp digits
    have digit := List.forall_mem_singleton.mp last
    have small := digitValue_lt digit
    have smaller := ih before
    rw [numberOf_concat word digit, List.length_append, List.length_singleton, Nat.pow_succ]
    omega

theorem numberOf_pair {c d : Char} (first : c.isDigit = true) (second : d.isDigit = true) :
    Digit.numberOf 10 [c, d] = digitValue c * 10 + digitValue d := by
  have single : Digit.numberOf 10 [c] = digitValue c := by
    simpa [Digit.numberOf, Digit.number] using numberOf_concat [] first
  rw [← single]
  exact numberOf_concat [c] second

/-- One digit behind another. -/
theorem isWrittenFor_pair (pair : DigitTest × DigitTest) :
    IsWrittenFor (pair.1.text ++ pair.2.text) ([.char pair.1.test] ++ [.char pair.2.test])
      fun word => ∃ c d, word = [c, d] ∧ pair.1.Holds c ∧ pair.2.Holds d := by
  have first := isWrittenFor_char pair.1.reads pair.1.plain pair.1.accepts
  have second := isWrittenFor_char pair.2.reads pair.2.plain pair.2.accepts
  refine (first.append second).congr fun word _ => ?_
  constructor
  · rintro ⟨_, _, rfl, ⟨c, rfl, holds⟩, d, rfl, holdsLater⟩
    exact ⟨c, d, rfl, holds, holdsLater⟩
  · rintro ⟨c, d, rfl, holds, holdsLater⟩
    exact ⟨[c], [d], rfl, ⟨c, rfl, holds⟩, d, rfl, holdsLater⟩

/-- The pairs of digits are those of the numbers between two bounds. -/
def spans (pairs : List (DigitTest × DigitTest)) (low high : Nat) : Bool :=
  (List.range 10).all fun a => (List.range 10).all fun b =>
    pairs.any (fun pair => (digitValue pair.1.first ≤ a && a ≤ digitValue pair.1.last) &&
      (digitValue pair.2.first ≤ b && b ≤ digitValue pair.2.last)) ==
    (low ≤ a * 10 + b && a * 10 + b ≤ high)

theorem covers_iff_pairs {pairs : List (DigitTest × DigitTest)} {low high : Nat}
    (spans : spans pairs low high = true) {word : List Char} :
    (∃ pair ∈ pairs, ∃ c d, word = [c, d] ∧ pair.1.Holds c ∧ pair.2.Holds d) ↔
      (Numeral.mk 2 low high).Covers word := by
  have same {c d : Char} (first : c.isDigit = true) (second : d.isDigit = true) :
      (∃ pair ∈ pairs, pair.1.Holds c ∧ pair.2.Holds d) ↔
        low ≤ Digit.numberOf 10 [c, d] ∧ Digit.numberOf 10 [c, d] ≤ high := by
    -- The values of the two digits are one place in the table of all pairs.
    have row := List.all_eq_true.mp spans _ (List.mem_range.mpr (digitValue_lt first))
    have entry := List.all_eq_true.mp row _ (List.mem_range.mpr (digitValue_lt second))
    rw [beq_iff_eq, Bool.eq_iff_iff] at entry
    simpa [DigitTest.holds_iff _ first, DigitTest.holds_iff _ second, numberOf_pair first second,
      and_assoc] using entry
  constructor
  · rintro ⟨pair, member, c, d, rfl, holds, holdsLater⟩
    obtain ⟨enough, few⟩ := (same holds.isDigit holdsLater.isDigit).mp
      ⟨pair, member, holds, holdsLater⟩
    exact ⟨rfl, by simp [holds.isDigit, holdsLater.isDigit], enough, few⟩
  · rintro ⟨width, digits, enough, few⟩
    obtain ⟨c, d, rfl⟩ := List.length_eq_two.mp width
    obtain ⟨pair, member, holds⟩ := (same (digits c (by simp)) (digits d (by simp))).mpr
      ⟨enough, few⟩
    exact ⟨pair, member, c, d, rfl, holds⟩

/-- Pairs of digits in a group. -/
theorem isWrittenFor_pairs (pairs : List (DigitTest × DigitTest)) (nonempty : pairs ≠ [])
    {low high : Nat} (spans : spans pairs low high = true) {text : List Char}
    (written : text = '(' :: '?' :: ':' ::
      (['|'].intercalate (pairs.map fun pair => pair.1.text ++ pair.2.text) ++ [')'])) :
    ∃ row, IsWrittenFor text row (Numeral.mk 2 low high).Covers := by
  rw [written]
  exact ⟨_, (isWrittenFor_choices nonempty isWrittenFor_pair).congr fun _ _ =>
    covers_iff_pairs spans⟩

/-- A pair of digits by itself. -/
theorem isWrittenFor_single (pair : DigitTest × DigitTest) {low high : Nat}
    (spans : spans [pair] low high = true) :
    ∃ row, IsWrittenFor (pair.1.text ++ pair.2.text) row (Numeral.mk 2 low high).Covers :=
  ⟨_, (isWrittenFor_pair pair).congr fun word _ => by
    simpa using (covers_iff_pairs spans : _ ↔ Numeral.Covers _ word)⟩

/-! ### Tokens -/

/-- The entries of two tables with the same tokens, side by side. -/
def beside (tokens : List Token) (numerals : List (String × Numeral)) :
    List (String × String × Numeral) :=
  tokens.zipWith (fun token numeral => (token.1, token.2, numeral.2)) numerals

theorem exists_isWrittenFor_year : ∃ row, IsWrittenFor "\\d\x7b4\x7d".toList row
    (Numeral.mk 4 0 9999).Covers := by
  refine ⟨_, CardBrand.reads_times CardBrand.readsAtom_anyDigit 4 (by decide),
    isSound_cons.mpr ⟨rfl, isSound_nil⟩, List.forall_mem_singleton.mpr rfl, _,
    obeys_rep_char (.set false [.named false .digit]) 4 (by simp), fun word ascii => ?_⟩
  have digits : (∀ c ∈ word, (CharTest.set false [.named false .digit]).accepts {} c = true) ↔
      ∀ c ∈ word, c.isDigit = true :=
    forall₂_congr fun c member => (DigitTest.any.accepts c (ascii c member)).trans isDigit_iff.symm
  -- Both bounds of the number hold for any four digits.
  rw [digits]
  constructor
  · rintro ⟨enough, few, all⟩
    have width := le_antisymm (few 4 rfl) enough
    have below := numberOf_lt word all
    rw [width] at below
    exact ⟨width, all, Nat.zero_le _, Nat.le_of_lt_succ below⟩
  · rintro ⟨width, all, -, -⟩
    exact ⟨width.ge, by simp [width], all⟩

/-- Each fragment of a date is written for the numbers of its token. -/
theorem exists_isWrittenFor_date : ∀ entry ∈ beside dateTokens dateNumerals,
    ∃ row, IsWrittenFor entry.2.1.toList row entry.2.2.Covers := by
  -- The texts of the pairs make up the fragments of the table, which `rfl` compares.
  have month := isWrittenFor_pairs [
    (.exactly '0' (by decide) rfl, .range '1' '9' (by decide) rfl (by decide)),
    (.exactly '1' (by decide) rfl, .range '0' '2' (by decide) rfl (by decide))]
    (List.cons_ne_nil _ _) (by decide : spans _ 1 12 = true) rfl
  have day := isWrittenFor_pairs [
    (.exactly '0' (by decide) rfl, .range '1' '9' (by decide) rfl (by decide)),
    (.either '1' '2' (by decide) rfl (by decide) rfl, .any),
    (.exactly '3' (by decide) rfl, .either '0' '1' (by decide) rfl (by decide) rfl)]
    (List.cons_ne_nil _ _) (by decide : spans _ 1 31 = true) rfl
  exact List.forall_mem_cons.mpr ⟨exists_isWrittenFor_year, List.forall_mem_cons.mpr ⟨month,
    List.forall_mem_singleton.mpr day⟩⟩

/-- Each fragment of a time is written for the numbers of its token. -/
theorem exists_isWrittenFor_time : ∀ entry ∈ beside timeTokens timeNumerals,
    ∃ row, IsWrittenFor entry.2.1.toList row entry.2.2.Covers := by
  have hour := isWrittenFor_pairs [
    (.either '0' '1' (by decide) rfl (by decide) rfl, .any),
    (.exactly '2' (by decide) rfl, .range '0' '3' (by decide) rfl (by decide))]
    (List.cons_ne_nil _ _) (by decide : spans _ 0 23 = true) rfl
  have sixty := isWrittenFor_single (.range '0' '5' (by decide) rfl (by decide), .any)
    (by decide : spans _ 0 59 = true)
  exact List.forall_mem_cons.mpr ⟨hour, List.forall_mem_cons.mpr ⟨sixty,
    List.forall_mem_singleton.mpr sixty⟩⟩

theorem isSeparate_dateTokens : IsSeparate dateTokens where
  tokens := by decide
  fragments := by decide
  apart := by decide
  outside := by decide

theorem isSeparate_timeTokens : IsSeparate timeTokens where
  tokens := by decide
  fragments := by decide
  apart := by decide
  outside := by decide

/-! ### Formats -/

/-- The word falls into words for the parts of a format. -/
def IsFilled (parts : List (Segment Numeral)) (word : List Char) : Prop :=
  ∃ words, word = words.flatten ∧ List.Forall₂ Covers parts words

theorem isFilled_cons {part : Segment Numeral} {parts : List (Segment Numeral)} {word : List Char} :
    IsFilled (part :: parts) word ↔ ∃ u v, word = u ++ v ∧ Covers part u ∧ IsFilled parts v := by
  constructor
  · rintro ⟨_, rfl, _ | ⟨covers, later⟩⟩
    exact ⟨_, _, rfl, covers, _, rfl, later⟩
  · rintro ⟨u, _, rfl, covers, words, rfl, later⟩
    exact ⟨u :: words, rfl, .cons covers later⟩

/-- Where each part is written for its words, all of them are one behind the other. -/
theorem exists_isWrittenFor_parts (parts : List (Segment (String × Numeral))) :
    (∀ part ∈ parts, ∃ row,
      IsWrittenFor (rendered [part.map Prod.fst]) row (Covers (part.map Prod.snd))) →
    ∃ row, IsWrittenFor (rendered (parts.map (Segment.map Prod.fst))) row
      (IsFilled (parts.map (Segment.map Prod.snd))) := by
  induction parts with
  | nil =>
    refine fun _ => ⟨[], isWrittenFor_nil.congr fun word _ => ?_⟩
    simp [IsFilled]
  | cons part parts ih =>
    intro each
    obtain ⟨⟨row, here⟩, later⟩ := List.forall_mem_cons.mp each
    obtain ⟨next, written⟩ := ih later
    refine ⟨row ++ next, ?_⟩
    have both := (here.append written).congr fun word _ => isFilled_cons.symm
    simpa [rendered] using both

/-- A format with its tokens replaced is written for the words that its parts cover. -/
theorem exists_isWrittenFor_format {entries : List (String × String × Numeral)}
    (separate : IsSeparate (entries.map (Prod.map id Prod.fst)))
    (each : ∀ entry ∈ entries, ∃ row, IsWrittenFor entry.2.1.toList row entry.2.2.Covers)
    {format : String} (plain : format.toList.Disjoint signs) :
    ∃ row, IsWrittenFor (replaceEach (entries.map (Prod.map id Prod.fst)) format).toList row
      (IsFilled (cut (entries.map (Prod.map id Prod.snd)) format.toList)) := by
  rw [toList_replaceEach _ separate, cut_map, cut_map]
  refine exists_isWrittenFor_parts _ fun part member => ?_
  rcases of_mem_cut member with ⟨entry, listed, rfl⟩ | ⟨c, inside, rfl⟩
  · have written : rendered [(Segment.entry entry.2).map Prod.fst] = entry.2.1.toList :=
      List.append_nil _
    rw [written]
    exact each entry listed
  · exact exists_isWrittenFor_char (List.disjoint_left.mp plain inside)

/-! ### Shapes with a format -/

variable {config : Config}

/-- A shape whose pattern is a format with its tokens replaced accepts the ASCII texts in which the
format is filled. -/
theorem accepts_iff_filled {shape : Shape} (shaped : Shape.select? config = some shape)
    (options : (MatchOptions.ofConfig config).toOptions = {})
    (entries : List (String × String × Numeral))
    (separate : IsSeparate (entries.map (Prod.map id Prod.fst)))
    (each : ∀ entry ∈ entries, ∃ row, IsWrittenFor entry.2.1.toList row entry.2.2.Covers)
    {format : String} (plain : format.toList.Disjoint signs)
    (pattern : shape.pattern config =
      .ok (replaceEach (entries.map (Prod.map id Prod.fst)) format)) :
    ∃ matcher, Matcher.ofConfig config = .ok matcher ∧ ∀ text : String, IsAscii text.toList →
      (matcher.accepts text = true ↔
        ∃ before words after, text.toList = before ++ (words.flatten ++ after) ∧
          List.Forall₂ Covers (cut (entries.map (Prod.map id Prod.snd)) format.toList) words) := by
  obtain ⟨row, written⟩ := exists_isWrittenFor_format separate each plain
  obtain ⟨matcher, compiled, within⟩ := Shape.accepts_iff_within shaped options pattern written
  refine ⟨matcher, compiled, fun text ascii => (within text ascii).trans ?_⟩
  constructor
  · rintro ⟨before, _, after, split, words, rfl, covers⟩
    exact ⟨before, words, after, split, covers⟩
  · rintro ⟨before, words, after, split, covers⟩
    exact ⟨before, _, after, split, words, rfl, covers⟩

/-- Without options, a date or time with a format accepts the ASCII texts that contain words for the
parts of the format, one behind the other: digits for each token, any character but a line break for
a point, and the same character for all others. -/
theorem accepts_iff_covers (config : Config) (format : String)
    (plain : format.toList.Disjoint signs) (cased : config.isOn .caseInsensitive = false)
    (single : config.isOn .multiLine = false) (dotless : config.isOn .dotAll = false) :
    (Shape.select? config = some .date → config.scalar .dateFormat = .text format →
      ∃ matcher, Matcher.ofConfig config = .ok matcher ∧ ∀ text : String, IsAscii text.toList →
        (matcher.accepts text = true ↔
          ∃ before words after, text.toList = before ++ (words.flatten ++ after) ∧
            List.Forall₂ Covers (cut dateNumerals format.toList) words)) ∧
    (Shape.select? config = some .time → config.scalar .timeFormat = .text format →
      ∃ matcher, Matcher.ofConfig config = .ok matcher ∧ ∀ text : String, IsAscii text.toList →
        (matcher.accepts text = true ↔
          ∃ before words after, text.toList = before ++ (words.flatten ++ after) ∧
            List.Forall₂ Covers (cut timeNumerals format.toList) words)) := by
  have options := Shape.toOptions_eq_empty cased single dotless
  refine ⟨fun shaped set => ?_, fun shaped set => ?_⟩
  · have pattern : Shape.pattern .date config = .ok (replaceEach dateTokens format) := by
      rw [Shape.pattern, set]
      rfl
    exact accepts_iff_filled shaped options (beside dateTokens dateNumerals) isSeparate_dateTokens
      exists_isWrittenFor_date plain pattern
  · have pattern : Shape.pattern .time config = .ok (replaceEach timeTokens format) := by
      rw [Shape.pattern, set]
      rfl
    exact accepts_iff_filled shaped options (beside timeTokens timeNumerals) isSeparate_timeTokens
      exists_isWrittenFor_time plain pattern

/-- Nothing but a shape in some format is asked for. -/
def formatted (shape : Shape) (field : Scalar) (format : String) : Config :=
  (Config.default.setScalar (.shape shape) (.bool true)).setScalar field (.text format)

/-- A word of digits is looked at as a whole. -/
theorem Numeral.covers_of_all {numeral : Numeral} {word : List Char}
    (width : word.length = numeral.width) (digits : word.all Char.isDigit = true)
    (low : numeral.low ≤ Digit.numberOf 10 word) (high : Digit.numberOf 10 word ≤ numeral.high) :
    numeral.Covers word :=
  ⟨width, List.all_eq_true.mp digits, low, high⟩

/-- A fifth `Y` is a character like any other. -/
theorem covers_year_month : List.Forall₂ Covers (cut dateNumerals "YYYYY.MM".toList)
    ["2024".toList, ['Y'], ['/'], "12".toList] := by
  have parts : cut dateNumerals "YYYYY.MM".toList =
      [.entry ⟨4, 0, 9999⟩, .char 'Y', .char '.', .entry ⟨2, 1, 12⟩] := by cbv
  rw [parts]
  exact .cons (Numeral.covers_of_all rfl rfl (by decide) (by decide)) (.cons rfl
    (.cons ⟨'/', rfl, by decide⟩ (.cons (Numeral.covers_of_all rfl rfl (by decide) (by decide))
      .nil)))

/-- Tokens need nothing between them. -/
theorem covers_hour_minute_second : List.Forall₂ Covers (cut timeNumerals "HHmm:ss".toList)
    ["23".toList, "59".toList, [':'], "00".toList] := by
  have parts : cut timeNumerals "HHmm:ss".toList =
      [.entry ⟨2, 0, 23⟩, .entry ⟨2, 0, 59⟩, .char ':', .entry ⟨2, 0, 59⟩] := by cbv
  rw [parts]
  exact .cons (Numeral.covers_of_all rfl rfl (by decide) (by decide))
    (.cons (Numeral.covers_of_all rfl rfl (by decide) (by decide)) (.cons rfl
      (.cons (Numeral.covers_of_all rfl rfl (by decide) (by decide)) .nil)))

theorem accepts_iff_covers_formatted :
    ("YYYYY.MM".toList.Disjoint signs ∧
      Shape.select? (formatted .date .dateFormat "YYYYY.MM") = some .date ∧
      ∃ matcher, Matcher.ofConfig (formatted .date .dateFormat "YYYYY.MM") = .ok matcher ∧
        matcher.accepts "on 2024Y/12!" = true) ∧
    ("HHmm:ss".toList.Disjoint signs ∧
      Shape.select? (formatted .time .timeFormat "HHmm:ss") = some .time ∧
      ∃ matcher, Matcher.ofConfig (formatted .time .timeFormat "HHmm:ss") = .ok matcher ∧
        matcher.accepts "at 2359:00!" = true) := by
  have plainDate : "YYYYY.MM".toList.Disjoint signs := by decide
  have plainTime : "HHmm:ss".toList.Disjoint signs := by decide
  constructor
  · obtain ⟨matcher, compiled, accepts⟩ := (accepts_iff_covers
      (formatted .date .dateFormat "YYYYY.MM") "YYYYY.MM" plainDate rfl rfl rfl).1 rfl rfl
    exact ⟨plainDate, rfl, matcher, compiled, (accepts "on 2024Y/12!" (by simp [IsAscii])).mpr
      ⟨"on ".toList, _, ['!'], rfl, covers_year_month⟩⟩
  · obtain ⟨matcher, compiled, accepts⟩ := (accepts_iff_covers
      (formatted .time .timeFormat "HHmm:ss") "HHmm:ss" plainTime rfl rfl rfl).2 rfl rfl
    exact ⟨plainTime, rfl, matcher, compiled, (accepts "at 2359:00!" (by simp [IsAscii])).mpr
      ⟨"at ".toList, _, ['!'], rfl, covers_hour_minute_second⟩⟩

end Patternwright.Format
