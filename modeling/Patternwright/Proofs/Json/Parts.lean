import Patternwright.Json.Writer
import Patternwright.Proofs.Json.Spelling
import Patternwright.Proofs.Regex.Counts

/-!
# Texts and numbers in documents

What is written for a text spells it, whatever characters it has: controls, quotes and backslashes
are escaped, a character beyond the basic plane is two escapes, the halves of a pair. What is
written for an integer is a number with as many digits as the integer has.

## Main results

* `Json.spellsChars_flatMap` — a text between its quotes
* `Json.spellsNumber_intChars` — an integer
-/

namespace Patternwright.Json

open Regex (IsShort isDigit_of_mem_toDigits numberOf_toDigits)

/-! ### Code escapes -/

theorem length_hex (width n : Nat) : (Text.hex width n).length = width := by
  induction width generalizing n with
  | zero => rfl
  | succ width ih => simp [Text.hex, ih]

theorem value?_digitChar : ∀ digit < 16, Digit.value? digit.digitChar = some digit := by
  decide

/-- Hexadecimal digits stand for the number that they are written for, as far as they go. -/
theorem mapM_value?_hex (width n : Nat) :
    ∃ values, (Text.hex width n).mapM Digit.value? = some values ∧
      Digit.number 16 values = n % 16 ^ width := by
  induction width generalizing n with
  | zero => exact ⟨[], rfl, by simp [Digit.number, Nat.mod_one]⟩
  | succ width ih =>
    obtain ⟨values, read, number⟩ := ih (n / 16)
    refine ⟨values ++ [n % 16], ?_, ?_⟩
    · simp [Text.hex, List.mapM_append, read, value?_digitChar _ (Nat.mod_lt n (by decide))]
    · have last : Digit.number 16 (values ++ [n % 16]) = Digit.number 16 values * 16 + n % 16 := by
        simp [Digit.number, List.foldl_append]
      rw [last, number, Nat.pow_succ', Nat.mod_mul]
      omega

theorem hexCode?_hex {code : Nat} (small : code < 0x10000) :
    hexCode? (Text.hex 4 code) = some code := by
  obtain ⟨values, read, number⟩ := mapM_value?_hex 4 code
  simp [hexCode?, length_hex, read, number, Nat.mod_eq_of_lt small]

/-- The codes of characters leave out the halves of pairs. -/
theorem toNat_valid (c : Char) : c.toNat < 0xD800 ∨ 0xDFFF < c.toNat ∧ c.toNat < 0x110000 :=
  c.valid

theorem charOfCode?_toNat (c : Char) : charOfCode? c.toNat = some c := by
  have valid := toNat_valid c
  have high : isHighHalf c.toNat = false := by
    simp only [isHighHalf, Bool.and_eq_false_iff, decide_eq_false_iff_not]
    omega
  have low : isLowHalf c.toNat = false := by
    simp only [isLowHalf, Bool.and_eq_false_iff, decide_eq_false_iff_not]
    omega
  simp [charOfCode?, high, low]

/-! ### Texts -/

/-- What is written for a character spells it. -/
theorem spellsChars_quoteChar (c : Char) {body text : List Char} (later : SpellsChars body text) :
    SpellsChars (quoteChar c ++ body) (c :: text) := by
  unfold quoteChar
  split
  · next quote =>
    rcases quote with rfl | rfl <;> exact .escaped rfl later
  next unquoted =>
  split
  · next newline => exact .escaped (congrArg some newline.symm) later
  split
  · next mark => exact .escaped (congrArg some mark.symm) later
  split
  · next mark => exact .escaped (congrArg some mark.symm) later
  split
  · next mark => exact .escaped (congrArg some mark.symm) later
  split
  · next mark => exact .escaped (congrArg some mark.symm) later
  split
  · next shown =>
    have least : 0x20 ≤ c.toNat := shown.1
    exact .plain (not_or.mp unquoted).1 (not_or.mp unquoted).2 (by omega) later
  split
  · next basic => exact .code (hexCode?_hex basic) (charOfCode?_toNat c) later
  · next beyond =>
    have valid := toNat_valid c
    have isHigh : isHighHalf (0xD800 + (c.toNat - 0x10000) / 0x400) = true := by
      simp [isHighHalf]
      omega
    have isLow : isLowHalf (0xDC00 + (c.toNat - 0x10000) % 0x400) = true := by
      simp [isLowHalf]
      omega
    have pair := SpellsChars.pair (hexCode?_hex (by omega)) (hexCode?_hex (by omega)) isHigh isLow
      later
    have code : 0x10000 + (0xD800 + (c.toNat - 0x10000) / 0x400 - 0xD800) * 0x400 +
        (0xDC00 + (c.toNat - 0x10000) % 0x400 - 0xDC00) = c.toNat := by omega
    rw [code, Char.ofNat_toNat] at pair
    simpa [codeEscape] using pair

/-- What is written for a text spells it. -/
theorem spellsChars_flatMap (text : List Char) : SpellsChars (text.flatMap quoteChar) text := by
  induction text with
  | nil => exact .nil
  | cons c text ih => exact spellsChars_quoteChar c ih

/-! ### Numbers -/

theorem head?_toDigits {n : Nat} (positive : 0 < n) : (Nat.toDigits 10 n).head? ≠ some '0' := by
  -- The first digit is the first digit of the number without its last one.
  induction n using Nat.strong_induction_on with
  | _ n ih =>
    rw [Nat.toDigits_eq_if (by decide)]
    split
    · next digit =>
      have first : ∀ n < 10, 0 < n → Nat.digitChar n ≠ '0' := by decide
      simpa using first n digit positive
    · next more =>
      rw [List.head?_append, Option.or_of_isSome (by simp [Nat.toDigits_ne_nil])]
      exact ih (n / 10) (by omega) (by omega)

theorem isWhole_toDigits (n : Nat) : IsWhole (Nat.toDigits 10 n) where
  nonempty := Nat.toDigits_ne_nil
  digits _ := isDigit_of_mem_toDigits
  plain zero := by
    obtain rfl : n = 0 := by
      by_contra positive
      exact head?_toDigits (Nat.pos_of_ne_zero positive) zero
    rfl

/-- What is written for an integer is a number with its digits. -/
theorem spellsNumber_intChars (n : Int) :
    SpellsNumber (intChars n) (.int n) [(Nat.toDigits 10 n.natAbs).length] := by
  have number := SpellsNumber.int (decide (n < 0)) (isWhole_toDigits n.natAbs)
  rw [numberOf_toDigits] at number
  by_cases negative : n < 0
  · have same : -|n| = n := by rw [abs_of_neg negative, neg_neg]
    simpa [intChars, signChars, negative, same] using number
  · have same : (n.natAbs : Int) = n := by omega
    simpa [intChars, signChars, negative, same] using number

end Patternwright.Json
