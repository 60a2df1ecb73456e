import Mathlib
import Patternwright.Proofs.Shape.Address
import Patternwright.Proofs.Shape.Format
import Patternwright.Proofs.Text.Line

/-!
# Addresses that end with a dotted one

Two forms of an address end with four numbers and points between them. Of all forms only these have
a point, so they are what a text with a point is compared with. The pattern of a number has three
alternatives, which are told apart by the first digits; together they are the words of up to three
digits for a number up to two hundred and fifty-five, zeros before it included.

## Main definitions

* `Address.IsOctet`, `Address.IsQuad` — numbers of a dotted address, and four of them
* `Address.IsHead` — what stands before a dotted address

## Main results

* `Address.mem_octetPart` — the pattern of a number has the words for the numbers of one byte
* `Address.accepts_iff_dotted` — the texts with a point that an address accepts
-/

namespace Patternwright.Address

open Regex Format

/-! ### Numbers of one byte -/

/-- One to three digits for a number up to two hundred and fifty-five. -/
structure IsOctet (word : List Char) : Prop where
  enough : 1 ≤ word.length
  few : word.length ≤ 3
  digits : ∀ c ∈ word, c.isDigit = true
  small : Digit.numberOf 10 word ≤ 255

instance (word : List Char) : Decidable (IsOctet word) :=
  decidable_of_iff (1 ≤ word.length ∧ word.length ≤ 3 ∧ word.all Char.isDigit = true ∧
    Digit.numberOf 10 word ≤ 255)
    ⟨fun ⟨enough, few, digits, small⟩ => ⟨enough, few, List.all_eq_true.mp digits, small⟩,
      fun octet => ⟨octet.enough, octet.few, List.all_eq_true.mpr octet.digits, octet.small⟩⟩

theorem numberOf_single {c : Char} (digit : c.isDigit = true) :
    Digit.numberOf 10 [c] = digitValue c := by
  simpa [Digit.numberOf, Digit.number] using numberOf_concat [] digit

theorem numberOf_triple {c d e : Char} (first : c.isDigit = true) (second : d.isDigit = true)
    (third : e.isDigit = true) :
    Digit.numberOf 10 [c, d, e] = (digitValue c * 10 + digitValue d) * 10 + digitValue e := by
  rw [← numberOf_pair first second]
  exact numberOf_concat [c, d] third

/-- One digit up to some other is one whose value is up to that of the other. -/
theorem mem_upTo_iff {last : Char} (limit : last.isDigit = true)
    {plain : isPlainRange ('0', last) = true} {word : List Char} :
    word ∈ (upTo last plain).language ↔
      ∃ c, word = [c] ∧ c.isDigit = true ∧ digitValue c ≤ digitValue last := by
  have known := isDigit_iff.mp limit
  rw [upTo, Atom.mem_ofRanges]
  refine exists_congr fun c => and_congr_right' ?_
  simp only [List.mem_singleton, exists_eq_left, isDigit_iff, digitValue, char_le_iff] at known ⊢
  omega

theorem eq_of_digitValue {c d : Char} (first : c.isDigit = true) (second : d.isDigit = true)
    (same : digitValue c = digitValue d) : c = d := by
  have low := (isDigit_iff.mp first).1
  have low' := (isDigit_iff.mp second).1
  rw [char_le_iff] at low low'
  rw [← Char.toNat_inj]
  simp only [digitValue] at same
  omega

/-- The words of the three alternatives, in terms of the values of their digits. -/
theorem mem_octetPart_iff_digits {word : List Char} :
    word ∈ octetPart.language ↔
      (∃ c, word = ['2', '5', c] ∧ c.isDigit = true ∧ digitValue c ≤ 5) ∨
      (∃ c d, word = ['2', c, d] ∧ c.isDigit = true ∧ digitValue c ≤ 4 ∧ d.isDigit = true) ∨
      ∃ first c last, word = first ++ c :: last ∧ c.isDigit = true ∧
        (first = [] ∨ ∃ d, first = [d] ∧ d.isDigit = true ∧ digitValue d ≤ 1) ∧
        (last = [] ∨ ∃ d, last = [d] ∧ d.isDigit = true) := by
  have nine {c : Char} (digit : c.isDigit = true) : digitValue c ≤ digitValue '9' :=
    Nat.le_of_lt_succ (digitValue_lt digit)
  simp only [octetPart, Atom.mem_ofAlternatives, List.mem_cons, List.not_mem_nil, or_false,
    exists_eq_or_imp, exists_eq_left, Fragment.mem_append, Fragment.mem_literal, Atom.mem_alone,
    Atom.mem_optional]
  refine or_congr ?_ (or_congr ?_ ?_)
  · constructor
    · rintro ⟨_, _, rfl, rfl, last⟩
      obtain ⟨c, rfl, holds⟩ := (mem_upTo_iff rfl).mp last
      exact ⟨c, rfl, holds⟩
    · rintro ⟨c, rfl, holds⟩
      exact ⟨_, _, rfl, rfl, (mem_upTo_iff rfl).mpr ⟨c, rfl, holds⟩⟩
  · constructor
    · rintro ⟨_, _, rfl, ⟨_, _, rfl, rfl, middle⟩, last⟩
      obtain ⟨c, rfl, digit, few⟩ := (mem_upTo_iff rfl).mp middle
      obtain ⟨d, rfl, final, -⟩ := (mem_upTo_iff rfl).mp last
      exact ⟨c, d, rfl, digit, few, final⟩
    · rintro ⟨c, d, rfl, digit, few, final⟩
      exact ⟨['2', c], [d], rfl, ⟨['2'], [c], rfl, rfl, (mem_upTo_iff rfl).mpr ⟨c, rfl, digit, few⟩⟩,
        (mem_upTo_iff rfl).mpr ⟨d, rfl, final, nine final⟩⟩
  · constructor
    · rintro ⟨_, last, rfl, ⟨first, _, rfl, before, middle⟩, behind⟩
      obtain ⟨c, rfl, digit, -⟩ := (mem_upTo_iff rfl).mp middle
      refine ⟨first, c, last, by simp, digit, before.imp_right (mem_upTo_iff rfl).mp,
        behind.imp_right fun member => ?_⟩
      obtain ⟨d, rfl, final, -⟩ := (mem_upTo_iff rfl).mp member
      exact ⟨d, rfl, final⟩
    · rintro ⟨first, c, last, rfl, digit, before, behind⟩
      refine ⟨first ++ [c], last, by simp, ⟨first, [c], rfl, before.imp_right (mem_upTo_iff rfl).mpr,
        (mem_upTo_iff rfl).mpr ⟨c, rfl, digit, nine digit⟩⟩, behind.imp_right ?_⟩
      rintro ⟨d, rfl, final⟩
      exact (mem_upTo_iff rfl).mpr ⟨d, rfl, final, nine final⟩

/-- The pattern of a number has the words for the numbers of one byte. -/
theorem mem_octetPart (word : List Char) : word ∈ octetPart.language ↔ IsOctet word := by
  have two : digitValue '2' = 2 := rfl
  have five : digitValue '5' = 5 := rfl
  rw [mem_octetPart_iff_digits]
  constructor
  · rintro (⟨c, rfl, digit, few⟩ | ⟨c, d, rfl, digit, few, last⟩ |
      ⟨first, c, last, rfl, digit, rfl | ⟨d, rfl, lead, few⟩, rfl | ⟨e, rfl, final⟩⟩)
    · refine ⟨by simp, by simp, by simp [digit], ?_⟩
      rw [numberOf_triple rfl rfl digit]
      omega
    · have small := digitValue_lt last
      refine ⟨by simp, by simp, by simp [digit, last], ?_⟩
      rw [numberOf_triple rfl digit last]
      omega
    · have small := digitValue_lt digit
      refine ⟨by simp, by simp, by simp [digit], ?_⟩
      rw [List.nil_append, numberOf_single digit]
      omega
    · have small := digitValue_lt digit
      have small' := digitValue_lt final
      refine ⟨by simp, by simp, by simp [digit, final], ?_⟩
      rw [List.nil_append, numberOf_pair digit final]
      omega
    · have small := digitValue_lt digit
      refine ⟨by simp, by simp, by simp [digit, lead], ?_⟩
      rw [List.singleton_append, numberOf_pair lead digit]
      omega
    · have small := digitValue_lt digit
      have small' := digitValue_lt final
      refine ⟨by simp, by simp, by simp [digit, lead, final], ?_⟩
      rw [List.singleton_append, numberOf_triple lead digit final]
      omega
  · rintro ⟨enough, few, digits, small⟩
    -- Words of one or two digits and those that begin with zero or one are in the last alternative.
    rcases word with - | ⟨c, - | ⟨d, - | ⟨e, - | ⟨f, more⟩⟩⟩⟩
    · cases enough
    · exact .inr (.inr ⟨[], c, [], rfl, digits c (by simp), .inl rfl, .inl rfl⟩)
    · exact .inr (.inr ⟨[], c, [d], rfl, digits c (by simp), .inl rfl,
        .inr ⟨d, rfl, digits d (by simp)⟩⟩)
    · have first : c.isDigit = true := digits c (by simp)
      have second : d.isDigit = true := digits d (by simp)
      have third : e.isDigit = true := digits e (by simp)
      rw [numberOf_triple first second third] at small
      rcases Nat.lt_or_ge (digitValue c) 2 with low | high
      · exact .inr (.inr ⟨[c], d, [e], rfl, second, .inr ⟨c, rfl, first, by omega⟩,
          .inr ⟨e, rfl, third⟩⟩)
      obtain rfl : c = '2' := eq_of_digitValue first rfl (by omega)
      rcases Nat.lt_or_ge (digitValue d) 5 with low | high
      · exact .inr (.inl ⟨d, e, rfl, second, by omega, third⟩)
      obtain rfl : d = '5' := eq_of_digitValue second rfl (by omega)
      exact .inl ⟨e, rfl, third, by omega⟩
    · simp at few
      omega

/-! ### Dotted addresses and what stands before them -/

/-- Four numbers of one byte with a point between each two. -/
def IsQuad (word : List Char) : Prop :=
  ∃ octets : List (List Char), octets.length = 4 ∧ (∀ octet ∈ octets, IsOctet octet) ∧
    word = ['.'].intercalate octets

/-- What stands before a dotted address: two colons, perhaps with a group of four letters and one of
zeros behind them, or one to four groups with a gap behind them. -/
inductive IsHead : List Char → Prop
  | gap : IsHead "::".toList
  | mapped : IsHead "::ffff:".toList
  | translated {count : Nat} (counts : count ∈ Set.Icc 1 4) :
    IsHead ("::ffff:".toList ++ (List.replicate count '0' ++ [':']))
  | groups {groups : List (List Char)} (all : ∀ group ∈ groups, IsGroup group)
    (counts : groups.length ∈ Set.Icc 1 4) : IsHead (leads groups ++ [':'])

theorem mem_dottedPart {word : List Char} : word ∈ dottedPart.language ↔ IsQuad word := by
  simp only [dottedPart, Fragment.mem_append, Fragment.mem_literal, Atom.mem_alone, mem_octetPart]
  constructor
  · rintro ⟨_, d, rfl, ⟨_, _, rfl, ⟨_, c, rfl, ⟨_, _, rfl, ⟨_, b, rfl, ⟨a, _, rfl, first, rfl⟩,
      second⟩, rfl⟩, third⟩, rfl⟩, fourth⟩
    exact ⟨[a, b, c, d], rfl, by simp [first, second, third, fourth], by simp [List.intercalate]⟩
  · rintro ⟨octets, four, all, rfl⟩
    rcases octets with - | ⟨a, - | ⟨b, - | ⟨c, - | ⟨d, more⟩⟩⟩⟩
    all_goals try cases four
    obtain rfl : more = [] := by simpa using four
    have each : IsOctet a ∧ IsOctet b ∧ IsOctet c ∧ IsOctet d := by simpa using all
    obtain ⟨first, second, third, fourth⟩ := each
    exact ⟨a ++ ['.'] ++ b ++ ['.'] ++ c ++ ['.'], d, by simp [List.intercalate],
      ⟨a ++ ['.'] ++ b ++ ['.'] ++ c, ['.'], rfl,
        ⟨a ++ ['.'] ++ b ++ ['.'], c, rfl,
          ⟨a ++ ['.'] ++ b, ['.'], rfl, ⟨a ++ ['.'], b, rfl, ⟨a, ['.'], rfl, first, rfl⟩, second⟩,
            rfl⟩, third⟩, rfl⟩, fourth⟩

theorem IsQuad.dot_mem {word : List Char} (quad : IsQuad word) : '.' ∈ word := by
  have alone : word ∈ (1 : Language Char) * dottedPart.language := by
    rw [one_mul]
    exact mem_dottedPart.mpr quad
  exact dot_mem_of_dottedPart alone

theorem mem_zeros {word : List Char} :
    word ∈ ((Atom.ofChar '0' (by decide)).counted (.between 1 (some 4)) (by decide) rfl).language ↔
      ∃ count ∈ Set.Icc 1 4, word = List.replicate count '0' := by
  have single (word : List Char) : word ∈ (Atom.ofChar '0' (by decide)).language ↔
      ∃ _ : Unit, True ∧ word = ['0'] :=
    ⟨fun member => ⟨(), trivial, member⟩, fun ⟨_, _, same⟩ => same⟩
  have zeros (items : List Unit) :
      items.flatMap (fun _ => ['0']) = List.replicate items.length '0' := by
    induction items with
    | nil => rfl
    | cons item items ih => simp [ih, List.replicate_succ]
  refine (mem_repeated_between single).trans ?_
  constructor
  · rintro ⟨items, -, counts, rfl⟩
    exact ⟨items.length, counts, zeros items⟩
  · rintro ⟨count, counts, rfl⟩
    exact ⟨List.replicate count (), by simp, by simpa using counts, by simp [zeros]⟩

theorem mem_mappedPart {word : List Char} :
    word ∈ mappedPart.language ↔ word = "::".toList ∨ word = "::ffff:".toList ∨
      ∃ count ∈ Set.Icc 1 4,
        word = "::ffff:".toList ++ (List.replicate count '0' ++ [':']) := by
  simp only [mappedPart, Fragment.mem_append, Fragment.mem_literal, Atom.mem_optional,
    Atom.mem_ofAlternatives, List.mem_singleton, exists_eq_left, mem_colon, mem_zeros]
  constructor
  · rintro ⟨_, _, rfl, rfl, rfl | ⟨_, _, rfl, ⟨_, _, rfl, rfl, rfl | ⟨_, _, rfl, rfl, count, counts,
      rfl⟩⟩, rfl⟩⟩
    · exact .inl rfl
    · exact .inr (.inl rfl)
    · exact .inr (.inr ⟨count, counts, by simp⟩)
  · rintro (rfl | rfl | ⟨count, counts, rfl⟩)
    · exact ⟨_, [], rfl, rfl, .inl rfl⟩
    · exact ⟨[':', ':'], "ffff:".toList, rfl, rfl,
        .inr ⟨"ffff".toList, [':'], rfl, ⟨_, [], rfl, rfl, .inl rfl⟩, rfl⟩⟩
    · exact ⟨[':', ':'], "ffff:".toList ++ (List.replicate count '0' ++ [':']), rfl, rfl,
        .inr ⟨"ffff:".toList ++ List.replicate count '0', [':'], by simp,
          ⟨"ffff".toList, ':' :: List.replicate count '0', rfl, rfl,
            .inr ⟨[':'], _, rfl, rfl, count, counts, rfl⟩⟩, rfl⟩⟩

/-- The two forms that end with a dotted address have all heads between them. -/
theorem isHead_iff {word : List Char} :
    IsHead word ↔ word ∈ mappedPart.language ∨
      word ∈ repeated leadingPart.language ⟨1, some 4⟩ * colon.language := by
  simp only [mem_mappedPart, mem_mul_iff, mem_leads, mem_colon]
  constructor
  · rintro (_ | _ | counts | ⟨all, counts⟩)
    · exact .inl (.inl rfl)
    · exact .inl (.inr (.inl rfl))
    · exact .inl (.inr (.inr ⟨_, counts, rfl⟩))
    · exact .inr ⟨_, _, rfl, ⟨_, all, counts, rfl⟩, rfl⟩
  · rintro ((rfl | rfl | ⟨count, counts, rfl⟩) | ⟨_, _, rfl, ⟨groups, all, counts, rfl⟩, rfl⟩)
    · exact .gap
    · exact .mapped
    · exact .translated counts
    · exact .groups all counts

/-! ### Forms without a point -/

theorem IsGroup.dot_notMem {word : List Char} (group : IsGroup word) : '.' ∉ word := by
  intro dot
  have digit := group.digits '.' dot
  simp [IsHexDigit] at digit

theorem dot_notMem_joined {groups : List (List Char)} (all : ∀ group ∈ groups, IsGroup group) :
    '.' ∉ joined groups := by
  intro dot
  rcases Text.mem_or_exists_of_mem_intercalate dot with colon | ⟨group, member, inside⟩
  · simp at colon
  · exact (all group member).dot_notMem inside

theorem IsRun.dot_notMem {counts : Set Nat} {word : List Char} (run : IsRun counts word) :
    '.' ∉ word := by
  obtain ⟨groups, all, -, rfl⟩ := run
  exact dot_notMem_joined all

theorem IsGap.dot_notMem {counts : Set (Nat × Nat)} {word : List Char} (gap : IsGap counts word) :
    '.' ∉ word := by
  obtain ⟨left, right, before, after, -, rfl⟩ := gap
  simp [parted, dot_notMem_joined before, dot_notMem_joined after]

theorem dot_notMem_of_zonedPart {word : List Char} (member : word ∈ zonedPart.language) :
    '.' ∉ word := by
  have hexDigits (word : List Char) (member : word ∈ repeated hexDigit.language ⟨0, some 4⟩) :
      ∀ c ∈ word, c ≠ '.' := by
    refine forall_mem_of_mem_repeated (fun word digit => ?_) member
    obtain ⟨c, holds, rfl⟩ := (mem_hexDigit word).mp digit
    rintro _ inside rfl
    obtain rfl := List.mem_singleton.mp inside
    simp [IsHexDigit] at holds
  obtain ⟨_, zone, rfl, member, zoned⟩ := Fragment.mem_append.mp member
  obtain ⟨_, _, rfl, member, percent⟩ := Fragment.mem_append.mp member
  obtain ⟨_, groups, rfl, local', grouped⟩ := Fragment.mem_append.mp member
  obtain rfl := Fragment.mem_literal.mp percent
  obtain rfl := Fragment.mem_literal.mp local'
  have before : ∀ c ∈ groups, c ≠ '.' := by
    refine forall_mem_of_mem_repeated (fun word part => ?_) grouped
    obtain ⟨_, inside, part⟩ := part
    obtain rfl := List.mem_singleton.mp inside
    obtain ⟨_, digits, rfl, rfl, member⟩ := Fragment.mem_append.mp part
    exact List.forall_mem_cons.mpr ⟨by decide, hexDigits digits member⟩
  have behind : ∀ c ∈ zone, c ≠ '.' := by
    refine forall_mem_of_mem_repeated (fun word part => ?_) zoned
    obtain ⟨c, rfl, range⟩ := part
    refine List.forall_mem_singleton.mpr ?_
    rintro rfl
    simp at range
  simp only [List.mem_append, not_or]
  exact ⟨⟨⟨by decide, fun dot => before _ dot rfl⟩, by decide⟩, fun dot => behind _ dot rfl⟩

/-- An address with a point has one of the two forms that end with a dotted address. -/
theorem mem_parts_iff_dotted {word : List Char} (dotted : '.' ∈ word) :
    (∃ part ∈ parts, word ∈ part.language) ↔
      ∃ head quad, word = head ++ quad ∧ IsHead head ∧ IsQuad quad := by
  simp only [isHead_iff, ← mem_dottedPart, or_and_right, and_or_left, exists_or, ← mem_mul_iff]
  rw [mem_parts_iff]
  constructor
  · rintro (run | gap | zoned | either)
    · exact (run.dot_notMem dotted).elim
    · exact (gap.dot_notMem dotted).elim
    · exact (dot_notMem_of_zonedPart zoned dotted).elim
    · exact either
  · exact fun either => .inr (.inr (.inr either))

/-! ### Accepted texts -/

/-- Of the texts with a point, those are accepted that are a head and four numbers of one byte behind
it, with or without a line break at the end. -/
theorem accepts_iff_dotted {config : Config} (shaped : Shape.select? config = some .ipv6)
    (cased : config.isOn .caseInsensitive = false) (singleLine : config.isOn .multiLine = false) :
    ∃ matcher, Matcher.ofConfig config = .ok matcher ∧ ∀ text : String, '.' ∈ text.toList →
      (matcher.accepts text = true ↔ ∃ head quad,
        (text.toList = head ++ quad ∨ text.toList = head ++ quad ++ ['\n']) ∧
          IsHead head ∧ IsQuad quad) := by
  obtain ⟨matcher, compiled, accepts⟩ := accepts_iff_mem_parts shaped cased singleLine
  refine ⟨matcher, compiled, fun text dotted => ?_⟩
  rw [accepts]
  constructor
  · rintro ⟨word, member, whole⟩
    -- The point of the text is not its line break, so the word has it.
    have inside : '.' ∈ word := by
      rcases whole with same | broken
      · exact same ▸ dotted
      · simpa [broken] using dotted
    obtain ⟨head, quad, rfl, holds, numbers⟩ := (mem_parts_iff_dotted inside).mp member
    exact ⟨head, quad, whole, holds, numbers⟩
  · rintro ⟨head, quad, whole, holds, numbers⟩
    have inside : '.' ∈ head ++ quad := List.mem_append_right _ numbers.dot_mem
    exact ⟨_, (mem_parts_iff_dotted inside).mpr ⟨head, quad, rfl, holds, numbers⟩, whole⟩

theorem isQuad_zeros : IsQuad "192.0.02.255".toList :=
  ⟨["192".toList, "0".toList, "02".toList, "255".toList], rfl, by decide, by decide⟩

theorem accepts_iff_dotted_addressed :
    Shape.select? addressed = some .ipv6 ∧ addressed.isOn .caseInsensitive = false ∧
      addressed.isOn .multiLine = false ∧ '.' ∈ "::ffff:00:192.0.02.255\n".toList ∧
      ∃ matcher, Matcher.ofConfig addressed = .ok matcher ∧
        matcher.accepts "::ffff:00:192.0.02.255\n" = true := by
  have shaped : Shape.select? addressed = some .ipv6 := rfl
  obtain ⟨matcher, compiled, accepts⟩ := accepts_iff_dotted shaped rfl rfl
  have dotted : '.' ∈ "::ffff:00:192.0.02.255\n".toList := by decide
  have head : IsHead "::ffff:00:".toList := .translated (by decide : 2 ∈ Set.Icc 1 4)
  exact ⟨rfl, rfl, rfl, dotted, matcher, compiled,
    (accepts _ dotted).mpr ⟨_, _, .inr (by decide), head, isQuad_zeros⟩⟩

end Patternwright.Address
