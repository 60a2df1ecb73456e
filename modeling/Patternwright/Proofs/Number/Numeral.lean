import Patternwright.Proofs.Regex.Counts

/-!
# Numerals that were written

An integer is read back from its decimal form, unless it has more digits than a numeral may have. A
sign is no digit.

## Main definitions

* `Numeral.beyond` — the least number that has too many digits

## Main results

* `Numeral.isWritable_iff_isShort` — the integers that have a numeral
* `Numeral.readDigits?_of_isDigit` — what digits without anything between them stand for
* `Numeral.readInt?_numeral` — an integer is read back
-/

namespace Patternwright.Numeral

open Regex (IsShort isDigit_of_mem_toDigits numberOf_toDigits numeral numeral_of_neg
  numeral_of_nonneg value?_of_isDigit)

theorem isWritable_iff_isShort (n : Int) : isWritable n = true ↔ IsShort n := by
  rw [isWritable, decide_eq_true_iff, Nat.length_toDigits_le_iff (by decide) (by decide)]
  rfl

/-- The least number that has too many digits. -/
def beyond : Int := 10 ^ digitLimit

theorem isWritable_beyond : isWritable beyond = false := by
  have base : Int.natAbs 10 = 10 := rfl
  rw [Bool.eq_false_iff, Ne, isWritable_iff_isShort, IsShort, beyond, Int.natAbs_pow, base]
  exact lt_irrefl _

theorem toNat_range_of_isDigit {c : Char} (digit : c.isDigit = true) :
    0x30 ≤ c.toNat ∧ c.toNat ≤ 0x39 := by
  simpa [Char.isDigit, Char.le_def, UInt32.le_iff_toNat_le] using digit

theorem decimalValue?_of_isDigit {c : Char} (digit : c.isDigit = true) :
    Unicode.decimalValue? c.toNat = some ((Digit.value? c).getD 0) := by
  have range := toNat_range_of_isDigit digit
  rw [Unicode.decimalValue?, if_pos (by omega), if_pos range, value?_of_isDigit digit]
  rfl

theorem isMargin_of_isDigit {c : Char} (digit : c.isDigit = true) : isMargin c = false := by
  have range := toNat_range_of_isDigit digit
  have space : c ≠ ' ' := by
    rintro rfl
    exact absurd digit (by decide)
  simp [isMargin, space]
  omega

/-- Digits without low lines between them stand for their values. -/
theorem readDigits?_of_isDigit {digits : List Char} (nonempty : digits ≠ [])
    (all : ∀ c ∈ digits, c.isDigit = true) :
    readDigits? digits = some (digits.map fun c => (Digit.value? c).getD 0) := by
  induction digits using readDigits?.induct with
  | case1 => exact absurd rfl nonempty
  | case2 c => rw [readDigits?, decimalValue?_of_isDigit (all c (by simp))]; rfl
  | case3 c rest => exact absurd (all '_' (by simp)) (by decide)
  | case4 c rest empty low ih =>
    have value := decimalValue?_of_isDigit (all c List.mem_cons_self)
    have later := ih empty fun d member => all d (List.mem_cons_of_mem c member)
    rw [readDigits?.eq_4 _ _ empty low, value, later]
    rfl

theorem readNat?_toDigits {n : Nat} (short : IsShort n) :
    readNat? (Nat.toDigits 10 n) = some n := by
  have length : (Nat.toDigits 10 n).length ≤ digitLimit :=
    of_decide_eq_true ((isWritable_iff_isShort n).mpr short)
  have value : Digit.number 10 ((Nat.toDigits 10 n).map fun c => (Digit.value? c).getD 0) = n :=
    numberOf_toDigits n
  rw [readNat?, readDigits?_of_isDigit Nat.toDigits_ne_nil fun c => isDigit_of_mem_toDigits]
  simp [length, value]

theorem trimMargins_eq {text : List Char} (none' : ∀ c ∈ text, isMargin c = false) :
    trimMargins text = text := by
  have kept {text : List Char} (none' : ∀ c ∈ text, isMargin c = false) :
      text.dropWhile isMargin = text := by
    cases text with
    | nil => rfl
    | cons c text => rw [List.dropWhile_cons, if_neg (by simp [none' c])]
  rw [trimMargins, kept none', kept fun c member => none' c (List.mem_reverse.mp member),
    List.reverse_reverse]

theorem isMargin_of_mem_numeral {n : Int} {c : Char} (member : c ∈ numeral n) :
    isMargin c = false := by
  rcases lt_or_ge n 0 with negative | nonneg
  · rw [numeral_of_neg negative] at member
    rcases List.mem_cons.mp member with rfl | member
    · decide
    · exact isMargin_of_isDigit (isDigit_of_mem_toDigits member)
  · rw [numeral_of_nonneg nonneg] at member
    exact isMargin_of_isDigit (isDigit_of_mem_toDigits member)

/-- An integer that is written in decimal is read back. -/
theorem readInt?_numeral {n : Int} (short : IsShort n) : readInt? (numeral n) = some n := by
  have trimmed : trimMargins (numeral n) = numeral n :=
    trimMargins_eq fun c => isMargin_of_mem_numeral
  unfold readInt?
  rw [trimmed]
  rcases lt_or_ge n 0 with negative | nonneg
  · have value : -(n.natAbs : Int) = n := by omega
    have read : readNat? (Nat.toDigits 10 n.natAbs) = some n.natAbs :=
      readNat?_toDigits (by rwa [IsShort, Int.natAbs_natCast])
    rw [numeral_of_neg negative]
    simp only [read]
    exact congrArg some value
  · have value : ((n.toNat : Nat) : Int) = n := Int.toNat_of_nonneg nonneg
    have read : readNat? (Nat.toDigits 10 n.toNat) = some n.toNat :=
      readNat?_toDigits (by rwa [value])
    rw [numeral_of_nonneg nonneg]
    -- A digit in front is no sign.
    split
    · next rest same =>
      exact absurd (isDigit_of_mem_toDigits (same ▸ List.mem_cons_self)) (by decide)
    · next rest same =>
      exact absurd (isDigit_of_mem_toDigits (same ▸ List.mem_cons_self)) (by decide)
    · rw [read, Option.map_some]
      exact congrArg some value

end Patternwright.Numeral
