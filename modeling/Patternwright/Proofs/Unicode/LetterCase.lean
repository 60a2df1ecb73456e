import Patternwright.Unicode.Blank
import Patternwright.Unicode.Decimal
import Patternwright.Unicode.LetterCase

/-!
# Characters and their lower case

A character is one of those that its lower case is the lower case of, so going to lower case and
back loses no character. Digits and white space have no case: going to lower case leaves them as
they are. No other character is taken for a line break when case is ignored.

## Main results

* `Unicode.mem_lowerCaseOf` — a character is found again from its lower case
* `Unicode.lowerCase_of_isDecimal`, `Unicode.lowerCase_of_isBlank` — digits and white space stay
* `Unicode.lowerCase_eq_lineBreak`, `Unicode.lineBreak_not_mem_siblings` — a line break is alone
-/

namespace Patternwright.Unicode

/-! ### Runs -/

/-- The character is one of a run. -/
def CaseRun.Holds (run : CaseRun) (code : Nat) : Prop :=
  run.first ≤ code ∧ code ≤ run.last ∧ (code - run.first) % run.stride = 0

/-- A case mapping leaves a character as it is, or moves it as a run that holds it says. -/
theorem CaseRun.apply_cases (runs : List CaseRun) (code : Nat) :
    apply runs code = code ∨
      ∃ run ∈ runs, run.Holds code ∧ apply runs code = (code + run.shift).toNat := by
  induction runs with
  | nil => exact .inl rfl
  | cons run runs ih =>
    -- A later run that holds the character decides about it, unless this one does.
    have later : apply runs code = code ∨ ∃ other ∈ run :: runs, other.Holds code ∧
        apply runs code = (code + other.shift).toNat :=
      ih.imp_right fun ⟨other, member, moved⟩ => ⟨other, List.mem_cons_of_mem run member, moved⟩
    rw [apply]
    split
    · exact later
    · next inside =>
      split
      · next held => exact .inr ⟨run, List.mem_cons_self, ⟨held.1, by omega, held.2⟩, rfl⟩
      · exact later

/-- Where no run moves a character below zero, each run finds its characters again. -/
theorem CaseRun.preimage?_of_holds {run : CaseRun} {code : Nat} (held : run.Holds code)
    (above : 0 ≤ run.first + run.shift) :
    run.preimage? (code + run.shift).toNat = some code := by
  have back : (((code + run.shift).toNat : Int) - run.shift).toNat = code := by
    have low : (run.first : Int) ≤ code := by exact_mod_cast held.1
    omega
  rw [preimage?, back]
  exact if_pos held

theorem lowerRuns_above : ∀ run ∈ lowerRuns, 0 ≤ run.first + run.shift := by decide +kernel

/-- A character with another lower case is one of those with that lower case. -/
theorem mem_lowerCaseOf {code : Nat} (moves : lowerCase code ≠ code) :
    code ∈ lowerCaseOf (lowerCase code) := by
  unfold lowerCase at moves ⊢
  rw [lowerCaseOf]
  split at moves
  · next ascii =>
    split at moves
    · next capital =>
      have small : 0x61 ≤ code + 0x20 ∧ code + 0x20 ≤ 0x7A := by omega
      simp [ascii, capital, small]
    · exact (moves rfl).elim
  · next wide =>
    rw [if_neg wide]
    rcases CaseRun.apply_cases lowerRuns code with stays | ⟨run, member, held, moved⟩
    · exact (moves stays).elim
    · have found := CaseRun.preimage?_of_holds held (lowerRuns_above run member)
      rw [← moved] at found
      exact List.mem_append_right _ (List.mem_filterMap.mpr ⟨run, member, found⟩)

/-! ### Characters without case -/

theorem RangeSet.exists_of_contains {ranges : RangeSet} {code : Nat}
    (contains : ranges.contains code = true) :
    ∃ range ∈ ranges, range.1 ≤ code ∧ code ≤ range.2 := by
  induction ranges with
  | nil => cases contains
  | cons range ranges ih =>
    obtain ⟨first, last⟩ := range
    rw [RangeSet.contains] at contains
    split at contains
    · cases contains
    · next inside =>
      rcases Bool.or_eq_true_iff.mp contains with low | later
      · exact ⟨_, List.mem_cons_self, by dsimp only; omega, by simpa using low⟩
      · obtain ⟨range, member, held⟩ := ih later
        exact ⟨range, List.mem_cons_of_mem _ member, held⟩

/-- No capital of ASCII and no run of capitals meets a range. -/
def isCaseless (range : Nat × Nat) : Bool :=
  (range.2 < 0x41 || 0x5A < range.1) &&
    lowerRuns.all fun run => range.2 < run.first || run.last < range.1

theorem lowerCase_of_isCaseless {range : Nat × Nat} (caseless : isCaseless range = true)
    {code : Nat} (low : range.1 ≤ code) (high : code ≤ range.2) : lowerCase code = code := by
  simp only [isCaseless, Bool.and_eq_true, Bool.or_eq_true, decide_eq_true_eq,
    List.all_eq_true] at caseless
  obtain ⟨ascii, apart⟩ := caseless
  have noCapital : ¬ (0x41 ≤ code ∧ code ≤ 0x5A) := by omega
  rw [lowerCase, if_neg noCapital]
  split
  · rfl
  · rcases CaseRun.apply_cases lowerRuns code with stays | ⟨run, member, ⟨first, last, -⟩, -⟩
    · exact stays
    · have beside := apart run member
      omega

theorem lowerCase_of_isBlank {code : Nat} (blank : isBlank code = true) :
    lowerCase code = code := by
  have caseless : blankRanges.all isCaseless = true := by decide +kernel
  obtain ⟨range, member, low, high⟩ := RangeSet.exists_of_contains blank
  exact lowerCase_of_isCaseless (List.all_eq_true.mp caseless range member) low high

theorem lowerCase_of_isDecimal {code : Nat} (decimal : isDecimal code = true) :
    lowerCase code = code := by
  have ascii : isCaseless (0x30, 0x39) = true := by decide +kernel
  have others : decimalRuns.all isCaseless = true := by decide +kernel
  rw [isDecimal] at decimal
  split at decimal
  · obtain ⟨low, high⟩ : 0x30 ≤ code ∧ code ≤ 0x39 := by simpa using decimal
    exact lowerCase_of_isCaseless ascii low high
  · obtain ⟨range, member, low, high⟩ := RangeSet.exists_of_contains decimal
    exact lowerCase_of_isCaseless (List.all_eq_true.mp others range member) low high

/-! ### The line break -/

/-- Nothing else has a line break for its lower case. -/
theorem lowerCase_eq_lineBreak {code : Nat} : lowerCase code = 0x0A ↔ code = 0x0A := by
  have none' : lowerCaseOf 0x0A = [] := by decide +kernel
  have itself : lowerCase 0x0A = 0x0A := by decide
  refine ⟨fun broken => ?_, fun same => same ▸ itself⟩
  by_cases stays : lowerCase code = code
  · exact stays.symm.trans broken
  · have member := mem_lowerCaseOf stays
    rw [broken, none'] at member
    exact (List.not_mem_nil member).elim

/-- A line break is no sibling. -/
theorem lineBreak_not_mem_siblings (code : Nat) : 0x0A ∉ siblings code := by
  have table : siblingTable.all (fun entry => !entry.2.contains 0x0A) = true := by decide +kernel
  rw [siblings]
  cases found : siblingTable.lookup code with
  | none => simp
  | some others =>
    obtain ⟨before, after, split, -⟩ := List.lookup_eq_some_iff.mp found
    have entry := List.all_eq_true.mp table (code, others) (by simp [split])
    simpa using entry

end Patternwright.Unicode
