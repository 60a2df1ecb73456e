import Mathlib.Computability.Language
import Mathlib.Order.Interval.Set.Defs
import Patternwright.Proofs.Pipeline.Compile
import Patternwright.Proofs.Regex.Laws

/-!
# Fragments of patterns and their languages

The pattern of a shape is put together from smaller ones. A *fragment* is a text together with the
row that it reads as, wherever it stands, and the language of that row: the words that it matches
where case counts. It carries the proofs of both. An *atom* is a fragment of one part that a
quantifier may follow.

Fragments are built the way patterns are: from characters and sets, one behind another, as
alternatives of a group, and with quantifiers. So the language of a pattern is known as soon as its
text is recognised as that of a fragment.

## Main definitions

* `Regex.Fragment`, `Regex.Atom` — texts with their rows and languages
* `Regex.repeated` — the language of a repetition
* `Fragment.append`, `Atom.ofAlternatives`, `Atom.quantified` — larger fragments from smaller ones

## Main results

* `Shape.accepts_iff_language` — the texts that a shape with such a pattern accepts
-/

namespace Patternwright

open Regex

namespace Regex

/-- A text that adds a row of parts wherever it stands, and the words that the row matches where
case counts. -/
structure Fragment where
  text : List Char
  row : List Node
  language : Language Char
  reads : Reads text row
  sound : IsSound row
  obeys : ∀ {options : Options}, options.ignoreCase = false →
    (Node.sequence row).Obeys options fun _ word => word ∈ language

/-- A text that adds one part wherever it stands, and the words that this part matches where case
counts. -/
structure Atom where
  text : List Char
  node : Node
  language : Language Char
  nonempty : text ≠ []
  reads : ReadsAtom text node
  sound : node.fault? false = none
  obeys : ∀ {options : Options}, options.ignoreCase = false →
    node.Obeys options fun _ word => word ∈ language

theorem mem_mul_iff {first second : Language Char} {word : List Char} :
    word ∈ first * second ↔ ∃ u v, word = u ++ v ∧ u ∈ first ∧ v ∈ second := by
  rw [Language.mem_mul]
  constructor
  · rintro ⟨u, left, v, right, rfl⟩
    exact ⟨u, v, rfl, left, right⟩
  · rintro ⟨u, v, rfl, left, right⟩
    exact ⟨u, left, v, right, rfl⟩

/-- The words of some language one behind the other, as many as the bounds allow. -/
def repeated (language : Language Char) (bounds : Bounds) : Language Char :=
  {word | ∃ pieces : List (List Char), word = pieces.flatten ∧ bounds.least ≤ pieces.length ∧
    (∀ limit, bounds.most = some limit → pieces.length ≤ limit) ∧ ∀ piece ∈ pieces, piece ∈ language}

/-- Where each word of a language is written for some item, a repetition is written for a list of
items. -/
theorem mem_repeated_map {α : Type} {form : α → List Char} {Holds : α → Prop}
    {language : Language Char} (written : ∀ word, word ∈ language ↔ ∃ item, Holds item ∧
      word = form item) (bounds : Bounds) (word : List Char) :
    word ∈ repeated language bounds ↔
      ∃ items : List α, word = items.flatMap form ∧ bounds.least ≤ items.length ∧
        (∀ limit, bounds.most = some limit → items.length ≤ limit) ∧ ∀ item ∈ items, Holds item := by
  -- Items can be chosen for all pieces at once.
  have all (pieces : List (List Char)) : (∀ piece ∈ pieces, piece ∈ language) ↔
      ∃ items : List α, pieces = items.map form ∧ ∀ item ∈ items, Holds item := by
    rw [← exists_map_iff]
    simp only [written]
  constructor
  · rintro ⟨pieces, rfl, enough, few, holds⟩
    obtain ⟨items, rfl, written⟩ := (all pieces).mp holds
    exact ⟨items, rfl, by simpa using enough, by simpa using few, written⟩
  · rintro ⟨items, rfl, enough, few, holds⟩
    exact ⟨items.map form, rfl, by simpa using enough, by simpa using few,
      (all _).mpr ⟨items, rfl, holds⟩⟩

theorem mem_repeated_between {α : Type} {form : α → List Char} {Holds : α → Prop}
    {language : Language Char} (written : ∀ word, word ∈ language ↔ ∃ item, Holds item ∧
      word = form item) {least most : Nat} {word : List Char} :
    word ∈ repeated language ⟨least, some most⟩ ↔
      ∃ items : List α, (∀ item ∈ items, Holds item) ∧ items.length ∈ Set.Icc least most ∧
        word = items.flatMap form := by
  rw [mem_repeated_map written]
  constructor
  · rintro ⟨items, rfl, enough, few, holds⟩
    exact ⟨items, holds, ⟨enough, few most rfl⟩, rfl⟩
  · rintro ⟨items, holds, ⟨enough, few⟩, rfl⟩
    exact ⟨items, rfl, enough, by simpa using few, holds⟩

/-- What holds for all characters of the words of a language holds for those of a repetition. -/
theorem forall_mem_of_mem_repeated {Holds : Char → Prop} {language : Language Char}
    (each : ∀ word ∈ language, ∀ c ∈ word, Holds c) {bounds : Bounds} {word : List Char}
    (member : word ∈ repeated language bounds) : ∀ c ∈ word, Holds c := by
  obtain ⟨pieces, rfl, -, -, all⟩ := member
  intro c inside
  obtain ⟨piece, found, inside⟩ := List.mem_flatten.mp inside
  exact each piece (all piece found) c inside

namespace Atom

/-- A character without a meaning of its own. -/
def ofChar (c : Char) (ordinary : isSign c = false) : Atom where
  text := [c]
  node := .char (.one c.toNat)
  language := {[c]}
  nonempty := by simp
  reads := readsAtom_ordinary ordinary
  sound := rfl
  obeys cased := obeys_literals cased [c]

/-- One character of some ranges. -/
def ofRanges (ranges : List (Char × Char)) (plain : ranges.all isPlainRange = true)
    (opening : (rangesText ranges).head? ≠ some '^') (nonempty : ranges ≠ [])
    (distinct : (ranges.map fun range => SetItem.range range.1.toNat range.2.toNat).Nodup) :
    Atom where
  text := '[' :: (rangesText ranges ++ [']'])
  node := .char (inRanges ranges)
  language := {word | ∃ c, word = [c] ∧ ∃ range ∈ ranges, range.1 ≤ c ∧ c ≤ range.2}
  nonempty := by simp
  reads := readsAtom_ranges plain opening nonempty distinct
  sound := rfl
  obeys cased := (obeys_char (inRanges ranges)).congr fun s word _ =>
    exists_congr fun c => and_congr_right' (accepts_inRanges_iff cased ranges c)

/-- Alternatives in a group. -/
def ofAlternatives (fragments : List Fragment) (nonempty : fragments ≠ []) : Atom where
  text := '(' :: '?' :: ':' :: (['|'].intercalate (fragments.map (·.text)) ++ [')'])
  node := .anyOf (fragments.map fun fragment : Fragment => .sequence fragment.row)
  language := {word | ∃ fragment ∈ fragments, word ∈ fragment.language}
  nonempty := by simp
  reads := (fills_bars nonempty fun fragment _ => fragment.reads).readsAtom_group marks_plain
  sound := by
    apply fault?_anyOf
    intro node member
    obtain ⟨fragment, -, rfl⟩ := List.mem_map.mp member
    exact fault?_sequence fragment.sound
  obeys cased := obeys_anyOf nonempty fun fragment _ => fragment.obeys cased

/-- An atom by itself. -/
def alone (atom : Atom) : Fragment where
  text := atom.text
  row := [atom.node]
  language := atom.language
  reads := atom.reads.reads
  sound := isSound_cons.mpr ⟨atom.sound, isSound_nil⟩
  obeys := atom.obeys

/-- An atom with a quantifier behind it. -/
def quantified (atom : Atom) {sign : List Char} {bounds : Bounds} (repeats : Repeats sign bounds)
    (ordered : ∀ limit, bounds.most = some limit → bounds.least ≤ limit) : Fragment where
  text := atom.text ++ sign
  row := [.rep .greedy bounds.least bounds.most atom.node]
  language := repeated atom.language bounds
  reads := atom.reads.reads_repeated repeats (atom.reads.calm.append_of_ne_nil atom.nonempty sign)
  sound := isSound_cons.mpr ⟨by simpa [Node.fault?] using atom.sound, isSound_nil⟩
  obeys cased := (obeys_rep (atom.obeys cased) ordered).congr fun s word _ => by
    simp only [pieces_iff_forall]
    rfl

/-- An atom that may be left out. -/
def optional (atom : Atom) : Fragment := atom.quantified repeats_question (by simp)

/-- An atom as many times as one likes, but at least once. -/
def many (atom : Atom) : Fragment := atom.quantified repeats_plus (by simp)

/-- An atom with counts behind it. -/
def counted (atom : Atom) (braces : Braces)
    (small : ∀ count ∈ braces.counts, 0 ≤ count ∧ count < 100)
    (usable : braces.bounds.fault? = none) : Fragment :=
  atom.quantified (Braces.repeats_small small usable) (Bounds.ordered_of_fault? usable)

@[simp] theorem mem_ofAlternatives {fragments : List Fragment} {nonempty : fragments ≠ []}
    {word : List Char} : word ∈ (ofAlternatives fragments nonempty).language ↔
      ∃ fragment ∈ fragments, word ∈ fragment.language := Iff.rfl

@[simp] theorem mem_alone {atom : Atom} {word : List Char} :
    word ∈ atom.alone.language ↔ word ∈ atom.language := Iff.rfl

theorem mem_optional {atom : Atom} {word : List Char} :
    word ∈ atom.optional.language ↔ word = [] ∨ word ∈ atom.language := by
  constructor
  · rintro ⟨pieces, rfl, -, few, each⟩
    have count : pieces.length ≤ 1 := few 1 rfl
    rcases pieces with - | ⟨piece, rest⟩
    · exact .inl rfl
    · obtain rfl : rest = [] := by simpa using count
      exact .inr (by simpa using each)
  · rintro (rfl | member)
    · exact ⟨[], rfl, Nat.le_refl 0, by simp, by simp⟩
    · exact ⟨[word], by simp, Nat.zero_le 1, by simp, by simpa using member⟩

theorem mem_ofRanges {ranges : List (Char × Char)} {plain : ranges.all isPlainRange = true}
    {opening : (rangesText ranges).head? ≠ some '^'} {nonempty : ranges ≠ []}
    {distinct : (ranges.map fun range => SetItem.range range.1.toNat range.2.toNat).Nodup}
    {word : List Char} :
    word ∈ (ofRanges ranges plain opening nonempty distinct).language ↔
      ∃ c, word = [c] ∧ ∃ range ∈ ranges, range.1 ≤ c ∧ c ≤ range.2 := Iff.rfl

end Atom

namespace Fragment

/-- Characters that stand for themselves. -/
def literal (text : List Char) : Fragment where
  text := text.flatMap Text.escapeChar
  row := literals text
  language := {text}
  reads := reads_escape text
  sound := isSound_literals text
  obeys cased := obeys_literals cased text

/-- One fragment behind another. -/
def append (first second : Fragment) : Fragment where
  text := first.text ++ second.text
  row := first.row ++ second.row
  language := first.language * second.language
  reads := first.reads.append second.reads
  sound := isSound_append.mpr ⟨first.sound, second.sound⟩
  obeys cased := (obeys_sequence_append (first.obeys cased) (second.obeys cased)).congr
    fun _ _ _ => mem_mul_iff.symm

instance : Append Fragment := ⟨append⟩

@[simp] theorem mem_append {first second : Fragment} {word : List Char} :
    word ∈ (first ++ second).language ↔
      ∃ u v, word = u ++ v ∧ u ∈ first.language ∧ v ∈ second.language :=
  mem_mul_iff

@[simp] theorem mem_literal {text word : List Char} :
    word ∈ (literal text).language ↔ word = text := Iff.rfl

end Fragment

end Regex

/-! ### Shapes with the pattern of a fragment -/

namespace Shape

open Pipeline

variable {config : Config} {shape : Shape} {shown : String} {fragment : Fragment}

/-- A shape whose pattern is a fragment between two anchors compiles. -/
theorem ofConfig_of_fragment (shaped : select? config = some shape)
    (pattern : shape.pattern config = .ok shown)
    (written : shown.toList = '^' :: (fragment.text ++ ['$'])) :
    Matcher.ofConfig config = .ok
      ⟨shown, ⟨.sequence (.anchor .lineStart :: (fragment.row ++ [.anchor .lineEnd])), 1,
        (MatchOptions.ofConfig config).toOptions⟩, MatchOptions.ofConfig config, some shape⟩ := by
  have reads : Reads shown.toList
      (.anchor .lineStart :: (fragment.row ++ [.anchor .lineEnd])) := by
    rw [written]
    exact fragment.reads.between
  have sound : IsSound (.anchor .lineStart :: (fragment.row ++ [.anchor .lineEnd])) :=
    isSound_cons.mpr ⟨rfl, isSound_append.mpr
      ⟨fragment.sound, isSound_cons.mpr ⟨rfl, isSound_nil⟩⟩⟩
  rw [ofConfig_of_build (build_of_shape shaped pattern), compile_of_reads reads sound]

/-- Where case counts and the text is one line to it, such a shape accepts the words of the
fragment, with or without a line break behind them. -/
theorem accepts_iff_language (shaped : select? config = some shape)
    (pattern : shape.pattern config = .ok shown)
    (written : shown.toList = '^' :: (fragment.text ++ ['$']))
    (cased : config.isOn .caseInsensitive = false) (singleLine : config.isOn .multiLine = false) :
    ∃ matcher, Matcher.ofConfig config = .ok matcher ∧ ∀ text : String,
      matcher.accepts text = true ↔
        ∃ word ∈ fragment.language, text.toList = word ∨ text.toList = word ++ ['\n'] := by
  have plain : (MatchOptions.ofConfig config).toOptions.ignoreCase = false := cased
  exact ⟨_, ofConfig_of_fragment shaped pattern written,
    Pattern.accepts_iff_line (fragment.obeys plain) singleLine 1⟩

end Shape

end Patternwright
