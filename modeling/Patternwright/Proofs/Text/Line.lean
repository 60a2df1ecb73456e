import Patternwright.Proofs.Regex.Counts
import Patternwright.Text.Lines
import Patternwright.Value

/-!
# Texts on one line

What messages and logs say about a value stands on one line, whatever the value: line feeds in it
are shown as escapes. So a log is read line by line as it was written.

## Main definitions

* `Text.IsLine` — a text without a line feed

## Main results

* `Value.isLine_quoted` — a value is shown on one line
* `Text.lines_flatMap` — lines that were written one after the other are the lines of the text
-/

namespace Patternwright

open Regex (isDigit_of_mem_toDigits numeral numeral_natCast numeral_of_neg)

namespace Text

/-- A text without a line feed. -/
def IsLine (text : List Char) : Prop := '\n' ∉ text

instance (text : List Char) : Decidable (IsLine text) := inferInstanceAs (Decidable (¬ _))

theorem isLine_append {text more : List Char} :
    IsLine (text ++ more) ↔ IsLine text ∧ IsLine more := by
  simp [IsLine]

theorem isLine_cons {c : Char} {text : List Char} :
    IsLine (c :: text) ↔ c ≠ '\n' ∧ IsLine text := by
  simp [IsLine, eq_comm]

theorem isLine_flatMap {α : Type} {f : α → List Char} {items : List α} :
    IsLine (items.flatMap f) ↔ ∀ item ∈ items, IsLine (f item) := by
  simp [IsLine]

theorem IsLine.sublist {text more : List Char} (line : IsLine more) (part : text.Sublist more) :
    IsLine text := fun member => line (part.subset member)

theorem isLine_replicate {n : Nat} {c : Char} (shown : c ≠ '\n') :
    IsLine (List.replicate n c) := fun member => shown (List.eq_of_mem_replicate member).symm

theorem isLine_toDigits (n : Nat) : IsLine (Nat.toDigits 10 n) := by
  intro member
  cases isDigit_of_mem_toDigits member

theorem isLine_hex (width n : Nat) : IsLine (hex width n) := by
  have digits : ∀ digit < 16, digit.digitChar ≠ '\n' := by decide
  induction width generalizing n with
  | zero => simp [hex, IsLine]
  | succ width ih =>
    have shown := digits _ (Nat.mod_lt n (by decide))
    exact isLine_append.mpr ⟨ih _, isLine_cons.mpr ⟨shown, by simp [IsLine]⟩⟩

/-- A character of a text between parts is one of the separator or of a part. -/
theorem mem_or_exists_of_mem_intercalate {separator : List Char} {parts : List (List Char)}
    {c : Char} (member : c ∈ separator.intercalate parts) :
    c ∈ separator ∨ ∃ part ∈ parts, c ∈ part := by
  induction parts with
  | nil => cases member
  | cons first parts ih =>
    cases parts with
    | nil =>
      rw [List.intercalate_singleton] at member
      exact .inr ⟨first, List.mem_singleton_self first, member⟩
    | cons second parts =>
      rw [List.intercalate_cons_cons, List.mem_append, List.mem_append] at member
      rcases member with (member | member) | member
      · exact .inr ⟨first, List.mem_cons_self, member⟩
      · exact .inl member
      · rcases ih member with member | ⟨part, found, member⟩
        · exact .inl member
        · exact .inr ⟨part, List.mem_cons_of_mem first found, member⟩

theorem isLine_intercalate {separator : String} {parts : List String}
    (plain : IsLine separator.toList) (each : ∀ part ∈ parts, IsLine part.toList) :
    IsLine (separator.intercalate parts).toList := by
  intro member
  rw [String.toList_intercalate] at member
  rcases mem_or_exists_of_mem_intercalate member with member | ⟨part, found, member⟩
  · exact plain member
  · obtain ⟨text, among, rfl⟩ := List.mem_map.mp found
    exact each text among member

theorem isLine_quotedChar {quote : Char} (shown : quote ≠ '\n') (c : Char) :
    IsLine (quotedChar quote c) := by
  unfold quotedChar
  split
  · next special =>
    rcases special with rfl | rfl
    · simpa [IsLine, eq_comm] using shown
    · decide
  split
  · decide
  split
  · decide
  -- From here on the character is no line feed.
  next feed =>
  split
  · decide
  split
  · simpa [IsLine, eq_comm] using feed
  split
  · simpa [isLine_cons] using isLine_hex 2 c.toNat
  split
  · simpa [isLine_cons] using isLine_hex 4 c.toNat
  · simpa [isLine_cons] using isLine_hex 8 c.toNat

/-- A text in quotes stands on one line. -/
theorem isLine_quoted (text : String) : IsLine (quoted text).toList := by
  have shown : quoteFor text.toList ≠ '\n' := by
    unfold quoteFor
    split <;> decide
  rw [quoted, String.toList_ofList, isLine_cons, isLine_append, isLine_flatMap]
  exact ⟨shown, fun c _ => isLine_quotedChar shown c, isLine_cons.mpr ⟨shown, by simp [IsLine]⟩⟩

/-- The first line goes up to the first line feed. -/
theorem lines_append {line : List Char} (single : IsLine line) (rest : List Char) :
    lines (line ++ '\n' :: rest) = line :: lines rest := by
  induction line with
  | nil => rfl
  | cons c line ih =>
    obtain ⟨shown, single⟩ := isLine_cons.mp single
    rw [List.cons_append, lines, ih single]
    simp [shown]

/-- The last line need not be ended. -/
theorem lines_of_isLine {line : List Char} (single : IsLine line) (written : line ≠ []) :
    lines line = [line] := by
  induction line with
  | nil => exact absurd rfl written
  | cons c line ih =>
    obtain ⟨shown, single⟩ := isLine_cons.mp single
    by_cases last : line = []
    · subst last
      simp [lines]
    · rw [lines, ih single last]
      simp [shown]

/-- Lines that were written one after the other are the lines of the text. -/
theorem lines_flatMap {written : List (List Char)} (each : ∀ line ∈ written, IsLine line) :
    lines (written.flatMap (· ++ ['\n'])) = written := by
  induction written with
  | nil => rfl
  | cons line written ih =>
    obtain ⟨single, later⟩ := List.forall_mem_cons.mp each
    rw [List.flatMap_cons, List.append_assoc, List.singleton_append, lines_append single, ih later]

/-- A text without a carriage return keeps its line ends, whatever comes behind it. -/
theorem unifyBreaks_append {text : List Char} (plain : '\r' ∉ text) (rest : List Char) :
    unifyBreaks (text ++ rest) = text ++ unifyBreaks rest := by
  induction text with
  | nil => rfl
  | cons c text ih =>
    obtain ⟨other, plain⟩ := not_or.mp (mt List.mem_cons.mpr plain)
    rw [List.cons_append, unifyBreaks, ih plain, List.cons_append]
    all_goals simp [Ne.symm other]

end Text

open Text

theorem isLine_toString (n : Int) : IsLine (toString n).toList := by
  change IsLine (numeral n)
  by_cases negative : n < 0
  · rw [numeral_of_neg negative, isLine_cons]
    exact ⟨by decide, isLine_toDigits n.natAbs⟩
  · obtain ⟨m, rfl⟩ := Int.eq_ofNat_of_zero_le (not_lt.mp negative)
    exact numeral_natCast m ▸ isLine_toDigits m

namespace Binary64

theorem isLine_shortest (mantissa : Nat) (exponent : Int) :
    IsLine (shortest mantissa exponent).1 := by
  unfold shortest
  dsimp only
  split
  · decide
  · exact (isLine_toDigits _).sublist (List.take_sublist _ _)

theorem isLine_positional {digits : List Char} (line : IsLine digits) (point : Int) :
    IsLine (positional digits point) := by
  unfold positional
  split
  · simp [isLine_cons, isLine_append, isLine_replicate, line]
  · dsimp only
    simp only [isLine_append, isLine_cons]
    refine ⟨⟨line.sublist (List.take_sublist _ _), isLine_replicate (by decide)⟩, by decide, ?_⟩
    split
    · decide
    · exact line.sublist (List.drop_sublist _ _)

theorem isLine_scientific {digits : List Char} (line : IsLine digits) (point : Int) :
    IsLine (scientific digits point) := by
  unfold scientific
  dsimp only
  simp only [isLine_append, isLine_cons]
  refine ⟨⟨line.sublist (List.take_sublist _ _), ?_⟩, by decide, ?_, isLine_replicate (by decide),
    isLine_toDigits _⟩
  · split
    · decide
    · exact isLine_cons.mpr ⟨by decide, line.sublist (List.drop_sublist _ _)⟩
  · split <;> decide

theorem isLine_toText (x : Binary64) : IsLine x.toText.toList := by
  cases x with
  | notANumber => decide
  | infinite negative => cases negative <;> decide
  | finite negative mantissa exponent =>
    have sign : IsLine (if negative then ['-'] else []) := by cases negative <;> decide
    have digits := isLine_shortest mantissa exponent
    rw [toText]
    dsimp only
    split
    · rw [String.toList_ofList, isLine_append]
      exact ⟨sign, by decide⟩
    · rw [String.toList_ofList, isLine_append]
      refine ⟨sign, ?_⟩
      split
      · exact isLine_positional digits _
      · exact isLine_scientific digits _

end Binary64

namespace Value

mutual

/-- A value is shown on one line. -/
theorem isLine_quoted : (v : Value) → IsLine v.quoted.toList
  | null => by decide
  | bool b => by cases b <;> decide
  | int n => isLine_toString n
  | real x => x.isLine_toText
  | text s => Text.isLine_quoted s
  | list items => by
    rw [quoted]
    simp only [String.toList_append, isLine_append]
    exact ⟨⟨by decide, isLine_intercalate (by decide) (isLine_quotedItems items)⟩, by decide⟩
  | object members => by
    rw [quoted]
    simp only [String.toList_append, isLine_append]
    exact ⟨⟨by decide, isLine_intercalate (by decide) (isLine_quotedMembers members)⟩, by decide⟩

theorem isLine_quotedItems : (items : List Value) → ∀ part ∈ quotedItems items, IsLine part.toList
  | [] => by simp [quotedItems]
  | v :: items => by
    rw [quotedItems, List.forall_mem_cons]
    exact ⟨isLine_quoted v, isLine_quotedItems items⟩

theorem isLine_quotedMembers :
    (members : List (String × Value)) → ∀ part ∈ quotedMembers members, IsLine part.toList
  | [] => by simp [quotedMembers]
  | (key, v) :: members => by
    rw [quotedMembers, List.forall_mem_cons]
    simp only [String.toList_append, isLine_append]
    exact ⟨⟨⟨Text.isLine_quoted key, by decide⟩, isLine_quoted v⟩, isLine_quotedMembers members⟩

end

end Value

end Patternwright
