import Mathlib
import Patternwright.Proofs.Shape.Format

/-!
# Coordinates

A coordinate is a decimal number in a range. Its pattern tells the range by digits: one alternative
has the numbers whose whole part is below the limit, the other one the limit with a fraction of
zeros. Which whole numbers a row of digits stands for is found by a look at all of them; a fraction
may be as long as one likes, and adds less than one to the whole part.

For a latitude, these are the numbers of the range. For a longitude, the first alternative has no zero
before the point and asks for a fraction, so not all numbers between the limits are accepted.

## Main definitions

* `Coordinate.Decimal` — decimal numbers with their texts and values
* `Coordinate.wordsOf` — the words of digits that some tests in a row accept

## Main results

* `Decimal.between_iff` — the numbers between two limits, by their whole parts and fractions
* `accepts_iff_latitude` — the texts that a latitude accepts
* `accepts_iff_longitude` — the texts that a longitude accepts
-/

namespace Patternwright.Coordinate

open Regex Digit Format

/-! ### Decimal numbers -/

/-- What stands before a number. -/
inductive Sign where
  | none
  | plus
  | minus
  deriving DecidableEq, Repr

def Sign.text : Sign → List Char
  | none => []
  | plus => ['+']
  | minus => ['-']

/-- A decimal number. There is a point if there are digits behind it. -/
structure Decimal where
  sign : Sign
  whole : Nat
  fraction : List Char
  digits : ∀ c ∈ fraction, c.isDigit = true
  deriving DecidableEq, Repr

/-- A point and digits behind it, if there are any. -/
def pointed : List Char → List Char
  | [] => []
  | digits => '.' :: digits

theorem pointed_of_ne_nil {digits : List Char} (nonempty : digits ≠ []) :
    pointed digits = '.' :: digits := by
  obtain ⟨c, rest, rfl⟩ := List.exists_cons_of_ne_nil nonempty
  rfl

/-- A number of zero or more digits is zero if they are. -/
theorem numberOf_eq_zero_iff (word : List Char) :
    (∀ c ∈ word, c.isDigit = true) → (numberOf 10 word = 0 ↔ ∀ c ∈ word, c = '0') := by
  induction word using List.reverseRecOn with
  | nil => exact fun _ => iff_of_true rfl (by simp)
  | append_singleton word c ih =>
    intro digits
    obtain ⟨before, last⟩ := List.forall_mem_append.mp digits
    have digit := List.forall_mem_singleton.mp last
    have zero : digitValue c = 0 ↔ c = '0' := by
      have low := (isDigit_iff.mp digit).1
      rw [char_le_iff] at low
      rw [digitValue, ← Char.toNat_inj]
      omega
    rw [numberOf_concat word digit, List.forall_mem_append, List.forall_mem_singleton, ← ih before,
      ← zero]
    omega

namespace Decimal

variable (number : Decimal)

/-- The number as it is written, with no zeros before the whole part. -/
def text : List Char :=
  number.sign.text ++ (Nat.toDigits 10 number.whole ++ pointed number.fraction)

/-- What the digits behind the point add. -/
def part : ℚ := numberOf 10 number.fraction / 10 ^ number.fraction.length

/-- The number without its sign. -/
def magnitude : ℚ := number.whole + number.part

/-- The rational number. -/
def value : ℚ := if number.sign = .minus then -number.magnitude else number.magnitude

theorem part_nonneg : 0 ≤ number.part := by
  unfold part
  positivity

theorem part_lt_one : number.part < 1 := by
  have below : (numberOf 10 number.fraction : ℚ) < 10 ^ number.fraction.length := by
    exact_mod_cast numberOf_lt number.fraction number.digits
  rw [part, div_lt_one (by positivity)]
  exact below

theorem part_eq_zero_iff : number.part = 0 ↔ ∀ c ∈ number.fraction, c = '0' := by
  have scale : (10 : ℚ) ^ number.fraction.length ≠ 0 := by positivity
  rw [part, div_eq_zero_iff, or_iff_left scale, Nat.cast_eq_zero]
  exact numberOf_eq_zero_iff number.fraction number.digits

theorem abs_value : |number.value| = number.magnitude := by
  have nonneg : 0 ≤ number.magnitude := add_nonneg (Nat.cast_nonneg _) number.part_nonneg
  rw [value]
  split
  · rw [abs_neg, abs_of_nonneg nonneg]
  · exact abs_of_nonneg nonneg

/-- The fraction adds less than one, so what is at most a whole number is known by the digits. -/
theorem magnitude_le_iff (limit : Nat) :
    number.magnitude ≤ limit ↔
      number.whole < limit ∨ number.whole = limit ∧ ∀ c ∈ number.fraction, c = '0' := by
  have nonneg := number.part_nonneg
  have small := number.part_lt_one
  rw [← part_eq_zero_iff, magnitude]
  rcases Nat.lt_trichotomy number.whole limit with below | rfl | above
  · have next : (number.whole : ℚ) + 1 ≤ limit := by exact_mod_cast below
    exact iff_of_true (by linarith) (.inl below)
  · have zero : (number.whole : ℚ) + number.part ≤ number.whole ↔ number.part = 0 := by
      rw [add_le_iff_nonpos_right]
      exact ⟨fun few => le_antisymm few nonneg, fun same => same.le⟩
    simpa using zero
  · have past : (limit : ℚ) < number.whole := by exact_mod_cast above
    exact iff_of_false (by linarith) (by omega)

/-- The numbers between a limit and the same limit below zero. -/
theorem between_iff (limit : Nat) :
    -(limit : ℚ) ≤ number.value ∧ number.value ≤ limit ↔
      number.whole < limit ∨ number.whole = limit ∧ ∀ c ∈ number.fraction, c = '0' := by
  rw [← abs_le, abs_value, magnitude_le_iff]

end Decimal

/-! ### Rows of digits -/

/-- The words of digits that the tests accept one behind the other. -/
def wordsOf : List DigitTest → List (List Char)
  | [] => [[]]
  | digit :: row =>
    ("0123456789".toList.filter fun c => digit.first ≤ c ∧ c ≤ digit.last).flatMap fun c =>
      (wordsOf row).map (c :: ·)

theorem mem_digits {c : Char} (digit : c.isDigit = true) : c ∈ "0123456789".toList := by
  have known : ∀ code ∈ List.range' '0'.toNat 10, Char.ofNat code ∈ "0123456789".toList := by
    decide
  simpa using known _ (toNat_mem_of_isDigit digit)

theorem mem_wordsOf_cons {digit : DigitTest} {row : List DigitTest} {word : List Char} :
    word ∈ wordsOf (digit :: row) ↔
      ∃ u v, word = u ++ v ∧ (∃ c, u = [c] ∧ digit.Holds c) ∧ v ∈ wordsOf row := by
  simp only [wordsOf, List.mem_flatMap, List.mem_filter, List.mem_map, decide_eq_true_eq]
  constructor
  · rintro ⟨c, ⟨-, holds⟩, v, member, rfl⟩
    exact ⟨[c], v, rfl, ⟨c, rfl, holds⟩, member⟩
  · rintro ⟨_, v, rfl, ⟨c, rfl, holds⟩, member⟩
    exact ⟨c, ⟨mem_digits (DigitTest.Holds.isDigit holds), holds⟩, v, member, rfl⟩

theorem mem_wordsOf_append {row more : List DigitTest} {word : List Char} :
    word ∈ wordsOf (row ++ more) ↔
      ∃ u v, word = u ++ v ∧ u ∈ wordsOf row ∧ v ∈ wordsOf more := by
  induction row generalizing word with
  | nil => simp [wordsOf]
  | cons digit row ih =>
    rw [List.cons_append]
    simp only [mem_wordsOf_cons, ih]
    constructor
    · rintro ⟨_, _, rfl, first, u, v, rfl, member, later⟩
      exact ⟨_, v, (List.append_assoc ..).symm, ⟨_, u, rfl, first, member⟩, later⟩
    · rintro ⟨_, v, rfl, ⟨u, w, rfl, first, member⟩, later⟩
      exact ⟨u, w ++ v, List.append_assoc .., first, w, v, rfl, member, later⟩

theorem mem_map_toDigits_iff {first count : Nat} {word : List Char} :
    word ∈ (List.range' first count).map (Nat.toDigits 10) ↔
      ∃ whole, first ≤ whole ∧ whole < first + count ∧ word = Nat.toDigits 10 whole := by
  rw [List.mem_map]
  constructor
  · rintro ⟨whole, member, rfl⟩
    obtain ⟨least, most⟩ := List.mem_range'_1.mp member
    exact ⟨whole, least, most, rfl⟩
  · rintro ⟨whole, least, most, rfl⟩
    exact ⟨whole, List.mem_range'_1.mpr ⟨least, most⟩, rfl⟩

/-! ### Parts of coordinates -/

/-- The parts of a row of digits. -/
def parts (row : List DigitTest) : List Node := row.map fun digit => .char digit.test

theorem takes_digits (row : List DigitTest) :
    (Node.sequence (parts row)).Takes fun word => word ∈ wordsOf row := by
  induction row with
  | nil => exact (takes_literals []).congr fun word _ => by simp [wordsOf]
  | cons digit row ih =>
    have first : (Node.sequence [.char digit.test]).Takes _ := takes_char digit.accepts
    exact (takes_append first ih).congr fun word _ => mem_wordsOf_cons.symm

/-- The last digit may be left out. -/
theorem takes_digits_optional (row : List DigitTest) (last : DigitTest) :
    (Node.sequence (parts row ++ [.rep .greedy 0 (some 1) (.char last.test)])).Takes fun word =>
      word ∈ wordsOf row ∨ word ∈ wordsOf (row ++ [last]) := by
  have more : (Node.sequence [_]).Takes _ := takes_optional (takes_digits [last])
  refine (takes_append (takes_digits row) more).congr fun word _ => ?_
  rw [mem_wordsOf_append]
  constructor
  · rintro ⟨u, v, rfl, member, rfl | later⟩
    · exact .inl (by simpa using member)
    · exact .inr ⟨u, v, rfl, member, later⟩
  · rintro (member | ⟨u, v, rfl, member, later⟩)
    · exact ⟨word, [], by simp, member, .inl rfl⟩
    · exact ⟨u, v, rfl, member, .inr later⟩

/-- The first digit may be left out. -/
theorem takes_optional_digits (first : DigitTest) (row : List DigitTest) :
    (Node.sequence ([.rep .greedy 0 (some 1) (.char first.test)] ++ parts row)).Takes fun word =>
      word ∈ wordsOf row ∨ word ∈ wordsOf (first :: row) := by
  have start : (Node.sequence [_]).Takes _ := takes_optional (takes_char first.accepts)
  refine (takes_append start (takes_digits row)).congr fun word _ => ?_
  rw [mem_wordsOf_cons]
  constructor
  · rintro ⟨u, v, rfl, rfl | single, member⟩
    · exact .inl member
    · exact .inr ⟨u, v, rfl, single, member⟩
  · rintro (member | ⟨u, v, rfl, single, member⟩)
    · exact ⟨[], word, rfl, .inl rfl, member⟩
    · exact ⟨u, v, rfl, .inr single, member⟩

/-- A point and digits of one kind behind it. -/
def fractionRow (digit : DigitTest) : List Node :=
  [.char (.one '.'.toNat), .rep .greedy 1 none (.char digit.test)]

theorem takes_fraction (digit : DigitTest) :
    (Node.sequence (fractionRow digit)).Takes fun word =>
      ∃ digits, digits ≠ [] ∧ (∀ c ∈ digits, digit.Holds c) ∧ word = pointed digits := by
  have run : (Node.sequence [_]).Takes _ := takes_run digit.accepts
  refine (takes_append (takes_literals ['.']) run).congr fun word _ => ?_
  constructor
  · rintro ⟨_, digits, rfl, rfl, nonempty, holds⟩
    exact ⟨digits, nonempty, holds, (pointed_of_ne_nil nonempty).symm⟩
  · rintro ⟨digits, nonempty, holds, rfl⟩
    exact ⟨['.'], digits, pointed_of_ne_nil nonempty, rfl, nonempty, holds⟩

/-- Such a point and its digits may be left out. -/
theorem takes_fraction_optional (digit : DigitTest) :
    (Node.sequence [.rep .greedy 0 (some 1) (.sequence (fractionRow digit))]).Takes fun word =>
      ∃ digits, (∀ c ∈ digits, digit.Holds c) ∧ word = pointed digits := by
  have fraction : (Node.sequence [_]).Takes _ := takes_optional (takes_fraction digit)
  refine fraction.congr fun word _ => ?_
  constructor
  · rintro (rfl | ⟨digits, -, holds, rfl⟩)
    · exact ⟨[], by simp, rfl⟩
    · exact ⟨digits, holds, rfl⟩
  · rintro ⟨digits, holds, rfl⟩
    by_cases empty : digits = []
    · exact .inl (by rw [empty]; rfl)
    · exact .inr ⟨digits, empty, holds, rfl⟩

/-- A sign that may be left out. -/
def signPart : Node :=
  .rep .greedy 0 (some 1) (.char (.set false [.one '-'.toNat, .one '+'.toNat]))

theorem takes_sign :
    (Node.sequence [signPart]).Takes fun word => ∃ sign : Sign, word = sign.text := by
  have accepts (c : Char) (_ : c.toNat < 0x80) :
      (CharTest.set false [.one '-'.toNat, .one '+'.toNat]).accepts {} c = true ↔
        c = '-' ∨ c = '+' := by
    simp [CharTest.accepts, setContains, SetItem.contains, ← Char.toNat_inj]
  have optional : (Node.sequence [signPart]).Takes _ := takes_optional (takes_char accepts)
  refine optional.congr fun word _ => ?_
  constructor
  · rintro (rfl | ⟨_, rfl, rfl | rfl⟩)
    · exact ⟨.none, rfl⟩
    · exact ⟨.minus, rfl⟩
    · exact ⟨.plus, rfl⟩
  · rintro ⟨_ | _ | _, rfl⟩
    · exact .inl rfl
    · exact .inr ⟨_, rfl, .inr rfl⟩
    · exact .inr ⟨_, rfl, .inl rfl⟩

theorem not_isSign_zero : isSign '0' = false := by decide

/-- The digit of fractions that add nothing. -/
def zero : DigitTest := .exactly '0' (by decide) not_isSign_zero

theorem holds_zero_iff {c : Char} : zero.Holds c ↔ c = '0' :=
  ⟨fun between => Char.le_antisymm between.2 between.1, fun same => same ▸ ⟨le_rfl, le_rfl⟩⟩

/-- The limit itself, perhaps with a fraction of zeros. -/
def limitRow (limit : Nat) : List Node :=
  literals (Nat.toDigits 10 limit) ++ [.rep .greedy 0 (some 1) (.sequence (fractionRow zero))]

theorem takes_limit (limit : Nat) :
    (Node.sequence (limitRow limit)).Takes fun word =>
      ∃ zeros, (∀ c ∈ zeros, c = '0') ∧ word = Nat.toDigits 10 limit ++ pointed zeros := by
  refine (takes_append (takes_literals (Nat.toDigits 10 limit)) (takes_fraction_optional zero)).congr
    fun word _ => ?_
  simp only [holds_zero_iff]
  constructor
  · rintro ⟨_, _, rfl, rfl, zeros, all, rfl⟩
    exact ⟨zeros, all, rfl⟩
  · rintro ⟨zeros, all, rfl⟩
    exact ⟨_, _, rfl, rfl, zeros, all, rfl⟩

theorem isDigit_of_zeros {zeros : List Char} (all : ∀ c ∈ zeros, c = '0') :
    ∀ c ∈ zeros, c.isDigit = true := by
  intro c member
  rw [all c member]
  rfl

/-! ### Latitudes -/

/-- The first of two digits of a number below ninety. -/
def tens : DigitTest := .range '1' '8' (by decide) (by decide) (by decide)

/-- The rows of digits are the numbers below the limit. -/
theorem wordsOf_latitude :
    wordsOf [.any] ++ wordsOf [tens, .any] = (List.range' 0 90).map (Nat.toDigits 10) := by
  decide +kernel

/-- The whole part of a latitude. -/
def latitudeWhole : List Node := [.rep .greedy 0 (some 1) (.char tens.test)] ++ parts [.any]

theorem takes_latitudeWhole :
    (Node.sequence latitudeWhole).Takes fun word => ∃ whole < 90,
      word = Nat.toDigits 10 whole := by
  refine (takes_optional_digits tens [.any]).congr fun word _ => ?_
  rw [← List.mem_append, wordsOf_latitude, mem_map_toDigits_iff]
  simp

/-- The parts of a latitude. -/
def latitudeRow : List Node :=
  [signPart, .alt
    (.sequence (latitudeWhole ++ [.rep .greedy 0 (some 1) (.sequence (fractionRow .any))]))
    (.sequence (limitRow 90))]

theorem isRowText_latitude :
    isRowText "^[-+]?([1-8]?\\d(\\.\\d+)?|90(\\.0+)?)$" latitudeRow = true := by
  decide +kernel

/-- The numbers that a latitude is written for. -/
theorem takes_latitude :
    (Node.sequence latitudeRow).Takes fun word => ∃ number : Decimal, word = number.text ∧
      (number.whole < 90 ∨ number.whole = 90 ∧ ∀ c ∈ number.fraction, c = '0') := by
  have body : (Node.sequence [_]).Takes _ :=
    takes_alt (takes_append takes_latitudeWhole (takes_fraction_optional .any)) (takes_limit 90)
  refine (takes_append takes_sign body).congr fun word _ => ?_
  -- The first alternative has the numbers below the limit, the second one the limit.
  constructor
  · rintro ⟨_, _, rfl, ⟨sign, rfl⟩, ⟨_, _, rfl, ⟨whole, below, rfl⟩, fraction, holds, rfl⟩ |
      ⟨zeros, all, rfl⟩⟩
    · exact ⟨⟨sign, whole, fraction, fun c member => (holds c member).isDigit⟩, rfl, .inl below⟩
    · exact ⟨⟨sign, 90, zeros, isDigit_of_zeros all⟩, rfl, .inr ⟨rfl, all⟩⟩
  · rintro ⟨⟨sign, whole, fraction, digits⟩, rfl, range⟩
    refine ⟨_, _, rfl, ⟨sign, rfl⟩, ?_⟩
    rcases range with below | ⟨rfl, zeros⟩
    · have holds (c : Char) (member : c ∈ fraction) : DigitTest.any.Holds c :=
        isDigit_iff.mp (digits c member)
      exact .inl ⟨_, _, rfl, ⟨whole, below, rfl⟩, fraction, holds, rfl⟩
    · exact .inr ⟨fraction, zeros, rfl⟩

/-- Without options, a latitude accepts the ASCII texts that are a decimal number from -90 to 90. -/
theorem accepts_iff_latitude {config : Config} (shaped : Shape.select? config = some .latitude)
    (cased : config.isOn .caseInsensitive = false) (single : config.isOn .multiLine = false)
    (dotless : config.isOn .dotAll = false) :
    ∃ matcher, Matcher.ofConfig config = .ok matcher ∧ ∀ text : String, IsAscii text.toList →
      (matcher.accepts text = true ↔ ∃ number : Decimal,
        (text.toList = number.text ∨ text.toList = number.text ++ ['\n']) ∧
        -90 ≤ number.value ∧ number.value ≤ 90) := by
  have pattern : Shape.pattern .latitude config = .ok _ := rfl
  obtain ⟨matcher, compiled, accepts⟩ := Shape.accepts_iff_takes shaped
    (Shape.toOptions_eq_empty cased single dotless) pattern isRowText_latitude takes_latitude
  refine ⟨matcher, compiled, fun text ascii => (accepts text ascii).trans ?_⟩
  have range (number : Decimal) := number.between_iff 90
  push_cast at range
  simp only [range]
  constructor
  · rintro ⟨_, written, number, rfl, suits⟩
    exact ⟨number, written, suits⟩
  · rintro ⟨number, written, suits⟩
    exact ⟨_, written, number, rfl, suits⟩

/-- Nothing but a latitude is asked for. -/
def parallel : Config := Config.default.setScalar (.shape .latitude) (.bool true)

/-- The south pole, written with a fraction. -/
def pole : Decimal := ⟨.minus, 90, "00".toList, List.all_eq_true.mp rfl⟩

theorem accepts_iff_latitude_pole :
    Shape.select? parallel = some .latitude ∧ parallel.isOn .caseInsensitive = false ∧
      parallel.isOn .multiLine = false ∧ parallel.isOn .dotAll = false ∧
      IsAscii "-90.00\n".toList ∧
      ∃ matcher, Matcher.ofConfig parallel = .ok matcher ∧
        matcher.accepts "-90.00\n" = true := by
  have ascii : IsAscii "-90.00\n".toList := by simp [IsAscii]
  have shaped : Shape.select? parallel = some .latitude := rfl
  obtain ⟨matcher, compiled, accepts⟩ := accepts_iff_latitude shaped rfl rfl rfl
  have range := (pole.between_iff 90).mpr (.inr ⟨rfl, by simp [pole]⟩)
  push_cast at range
  exact ⟨rfl, rfl, rfl, rfl, ascii, matcher, compiled,
    (accepts _ ascii).mpr ⟨pole, .inr (by decide +kernel), range⟩⟩

/-! ### Longitudes -/

/-- A digit that a number without zeros before it begins with. -/
def leading : DigitTest := .range '1' '9' (by decide) (by decide) (by decide)

/-- The digits of a whole part from a hundred on. -/
def hundreds : List DigitTest :=
  [.exactly '1' (by decide) (by decide), .range '0' '7' (by decide) (by decide) (by decide), .any]

/-- The rows of digits are the numbers from one to the last one below the limit. -/
theorem wordsOf_whole :
    wordsOf [leading] ++ wordsOf [leading, .any] ++ wordsOf hundreds =
      (List.range' 1 179).map (Nat.toDigits 10) := by
  -- Shorter rows come first here, so both sides have the same order.
  decide +kernel

/-- The whole part of a longitude. -/
def longitudeWhole : Node :=
  .alt (.sequence (parts hundreds))
    (.sequence (parts [leading] ++ [.rep .greedy 0 (some 1) (.char DigitTest.any.test)]))

theorem takes_longitudeWhole :
    longitudeWhole.Takes fun word => ∃ whole, 0 < whole ∧ whole < 180 ∧
      word = Nat.toDigits 10 whole := by
  refine (takes_alt (takes_digits hundreds) (takes_digits_optional [leading] .any)).congr
    fun word _ => ?_
  have listed : word ∈ wordsOf hundreds ∨
      (word ∈ wordsOf [leading] ∨ word ∈ wordsOf [leading, .any]) ↔
      word ∈ (List.range' 1 179).map (Nat.toDigits 10) := by
    rw [← wordsOf_whole, List.mem_append, List.mem_append, or_comm]
  rw [List.singleton_append, listed, mem_map_toDigits_iff]
  exact Iff.rfl

/-- The parts of a longitude. -/
def longitudeRow : List Node :=
  [signPart, .alt (.sequence (longitudeWhole :: fractionRow .any)) (.sequence (limitRow 180))]

theorem isRowText_longitude :
    isRowText "^[-+]?((1[0-7]\\d|[1-9]\\d?)\\.\\d+|180(\\.0+)?)$" longitudeRow = true := by
  decide +kernel

/-- The numbers that a longitude is written for. -/
theorem takes_longitude :
    (Node.sequence longitudeRow).Takes fun word => ∃ number : Decimal, word = number.text ∧
      (number.whole < 180 ∨ number.whole = 180 ∧ ∀ c ∈ number.fraction, c = '0') ∧
      number.whole ≠ 0 ∧ (number.fraction ≠ [] ∨ number.whole = 180) := by
  have whole : (Node.sequence [longitudeWhole]).Takes _ := takes_longitudeWhole
  have body : (Node.sequence [_]).Takes _ :=
    takes_alt (takes_append whole (takes_fraction .any)) (takes_limit 180)
  refine (takes_append takes_sign body).congr fun word _ => ?_
  -- The first alternative has the numbers below the limit, the second one the limit.
  constructor
  · rintro ⟨_, _, rfl, ⟨sign, rfl⟩, ⟨_, _, rfl, ⟨whole, positive, below, rfl⟩, fraction, nonempty,
      holds, rfl⟩ | ⟨zeros, all, rfl⟩⟩
    · have digits (c : Char) (member : c ∈ fraction) : c.isDigit = true := (holds c member).isDigit
      exact ⟨⟨sign, whole, fraction, digits⟩, rfl, .inl below, positive.ne', .inl nonempty⟩
    · exact ⟨⟨sign, 180, zeros, isDigit_of_zeros all⟩, rfl, .inr ⟨rfl, all⟩, Nat.succ_ne_zero 179,
        .inr rfl⟩
  · rintro ⟨⟨sign, whole, fraction, digits⟩, rfl, range, positive, written⟩
    refine ⟨_, _, rfl, ⟨sign, rfl⟩, ?_⟩
    rcases range with below | ⟨rfl, zeros⟩
    · have nonempty := written.resolve_right below.ne
      have holds (c : Char) (member : c ∈ fraction) : DigitTest.any.Holds c :=
        isDigit_iff.mp (digits c member)
      exact .inl ⟨_, _, rfl, ⟨whole, Nat.pos_of_ne_zero positive, below, rfl⟩, fraction, nonempty,
        holds, rfl⟩
    · exact .inr ⟨fraction, zeros, rfl⟩

/-- Without options, a longitude accepts the ASCII texts that are a decimal number from -180 to 180
whose whole part is not zero, with a fraction unless the whole part is the limit. -/
theorem accepts_iff_longitude {config : Config} (shaped : Shape.select? config = some .longitude)
    (cased : config.isOn .caseInsensitive = false) (single : config.isOn .multiLine = false)
    (dotless : config.isOn .dotAll = false) :
    ∃ matcher, Matcher.ofConfig config = .ok matcher ∧ ∀ text : String, IsAscii text.toList →
      (matcher.accepts text = true ↔ ∃ number : Decimal,
        (text.toList = number.text ∨ text.toList = number.text ++ ['\n']) ∧
        (-180 ≤ number.value ∧ number.value ≤ 180) ∧
        number.whole ≠ 0 ∧ (number.fraction ≠ [] ∨ number.whole = 180)) := by
  have pattern : Shape.pattern .longitude config = .ok _ := rfl
  obtain ⟨matcher, compiled, accepts⟩ := Shape.accepts_iff_takes shaped
    (Shape.toOptions_eq_empty cased single dotless) pattern isRowText_longitude takes_longitude
  refine ⟨matcher, compiled, fun text ascii => (accepts text ascii).trans ?_⟩
  have range (number : Decimal) := number.between_iff 180
  push_cast at range
  simp only [range]
  constructor
  · rintro ⟨_, written, number, rfl, suits⟩
    exact ⟨number, written, suits⟩
  · rintro ⟨number, written, suits⟩
    exact ⟨_, written, number, rfl, suits⟩

/-- Nothing but a longitude is asked for. -/
def located : Config := Config.default.setScalar (.shape .longitude) (.bool true)

/-- West of the prime meridian. -/
def west : Decimal := ⟨.minus, 122, "4194".toList, List.all_eq_true.mp rfl⟩

theorem accepts_iff_longitude_located :
    Shape.select? located = some .longitude ∧ located.isOn .caseInsensitive = false ∧
      located.isOn .multiLine = false ∧ located.isOn .dotAll = false ∧
      IsAscii "-122.4194\n".toList ∧
      ∃ matcher, Matcher.ofConfig located = .ok matcher ∧
        matcher.accepts "-122.4194\n" = true := by
  have ascii : IsAscii "-122.4194\n".toList := by simp [IsAscii]
  have shaped : Shape.select? located = some .longitude := rfl
  obtain ⟨matcher, compiled, accepts⟩ := accepts_iff_longitude shaped rfl rfl rfl
  have range := (west.between_iff 180).mpr (.inl (by decide))
  push_cast at range
  exact ⟨rfl, rfl, rfl, rfl, ascii, matcher, compiled,
    (accepts _ ascii).mpr ⟨west, .inr (by decide +kernel), range, by decide, .inl (by decide)⟩⟩

/-- A whole number of degrees is in the range, and yet it is not accepted. -/
theorem not_accepts_iff_range :
    ¬ ∀ config : Config, Shape.select? config = some .longitude →
      config.isOn .caseInsensitive = false → config.isOn .multiLine = false →
      config.isOn .dotAll = false →
      ∃ matcher, Matcher.ofConfig config = .ok matcher ∧ ∀ text : String, IsAscii text.toList →
        (matcher.accepts text = true ↔ ∃ number : Decimal,
          (text.toList = number.text ∨ text.toList = number.text ++ ['\n']) ∧
          -180 ≤ number.value ∧ number.value ≤ 180) := by
  intro claimed
  obtain ⟨matcher, compiled, accepts⟩ := claimed located rfl rfl rfl rfl
  -- At 45 the first alternative looks for a point, and the second one for another number.
  have ascii : IsAscii "45".toList := by simp [IsAscii]
  let number : Decimal := ⟨.none, 45, [], by simp⟩
  have range := (number.between_iff 180).mpr (.inl (by decide))
  push_cast at range
  have accepted := (accepts "45" ascii).mpr ⟨number, .inl (by decide +kernel), range⟩
  have rejected : ((Matcher.ofConfig located).map fun matcher : Matcher => matcher.accepts "45") =
      .ok false := by decide +kernel
  rw [compiled] at rejected
  exact Bool.false_ne_true ((Except.ok.inj rejected).symm.trans accepted)

end Patternwright.Coordinate
