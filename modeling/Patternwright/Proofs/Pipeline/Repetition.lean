import Patternwright.Proofs.Pipeline.Law
import Patternwright.Proofs.Pipeline.Override

/-!
# Upper bounds for repetitions

The conditions on words are asked where a piece begins, and the characters of two pieces one behind
the other are the characters of one piece. So the pieces behind the last one that has to be there
can go into it: a text that falls into many pieces falls into the least number as well. An upper
bound for the repetitions says nothing beside a lower one, and a lower bound says no more than an
exact count, if there is a piece at all.

Where the repetitions are thrown away, their bounds make no difference either.

## Main definitions

* `Repetitions`, `Config.withRepetitions` — repetitions, and a configuration with others
* `Pipeline.AsksFor` — repetitions can be used, and ask for a least number of pieces

## Main results

* `Pipeline.merges_pieceLaw` — two pieces one behind the other are one piece
* `Pipeline.law_withRepetitions` — the law of a configuration with usable repetitions
* `Pipeline.agree_withRepetitions` — upper bounds for repetitions say nothing
-/

namespace Patternwright

open Regex

/-- The values of the fields for repetitions. -/
structure Repetitions where
  exact : Value
  low : Value
  high : Value

namespace Repetitions

/-- Nothing is said about repetitions. -/
def none : Repetitions := ⟨.null, .null, .null⟩

/-- An exact count. -/
def exactly (count : Nat) : Repetitions := ⟨.int count, .null, .null⟩

/-- A lower bound. -/
def atLeast (least : Nat) : Repetitions := ⟨.null, .int least, .null⟩

/-- A lower and an upper bound. -/
def between (least most : Nat) : Repetitions := ⟨.null, .int least, .int most⟩

end Repetitions

/-- The configuration with other repetitions. -/
def Config.withRepetitions (config : Config) (repetitions : Repetitions) : Config :=
  ((config.setScalar .exactRepetitions repetitions.exact).setScalar .minRepetitions
    repetitions.low).setScalar .maxRepetitions repetitions.high

theorem Config.setScalar_self (config : Config) (field : Scalar) :
    config.setScalar field (config.scalar field) = config := by
  have same : (config.setScalar field (config.scalar field)).scalar = config.scalar := by
    funext other
    simp only [setScalar]
    split
    · next equal => rw [equal]
    · rfl
  exact congrArg (Config.mk · config.list) same

theorem Config.withRepetitions_self (config : Config) :
    config.withRepetitions ⟨config.scalar .exactRepetitions, config.scalar .minRepetitions,
      config.scalar .maxRepetitions⟩ = config := by
  simp only [withRepetitions, setScalar_self]

theorem Config.IsGeneral.withRepetitions {config : Config} (general : config.IsGeneral)
    (repetitions : Repetitions) : (config.withRepetitions repetitions).IsGeneral :=
  { general with }

namespace Pipeline

variable {config : Config}

/-! ### Pieces merge -/

/-- The characters of two pieces are the characters of one. -/
theorem merges_contentLaw (config : Config) : (contentLaw config).Merges := by
  intro s u v content later
  unfold contentLaw at content later ⊢
  split
  · next off =>
    rw [if_pos off] at content later
    exact List.forall_mem_append.mpr ⟨content, later⟩
  · next on =>
    rw [if_neg on] at content later
    exact ⟨List.append_ne_nil_of_left_ne_nil content.1 v,
      List.forall_mem_append.mpr ⟨content.2, later.2⟩⟩

/-- Two pieces one behind the other are one piece: its conditions are those of the first. -/
theorem merges_pieceLaw (config : Config) : (pieceLaw config).Merges := by
  rintro s u v ⟨content, present, absent⟩ ⟨later, -, -⟩
  exact ⟨merges_contentLaw config s u v content later, present, absent⟩

/-! ### Other repetitions -/

/-- Repetitions that can be used, and that ask for a least number of pieces. -/
structure AsksFor (config : Config) (repetitions : Repetitions) (least : Nat) : Prop where
  exact : Config.IsBound repetitions.exact
  low : Config.IsBound repetitions.low
  high : Config.IsBound repetitions.high
  written : (config.withRepetitions repetitions).repetitionBounds.all Value.isWritable = true
  asked : ∃ inner most, repetitionInner? (config.withRepetitions repetitions) = some inner ∧
    asked? inner = .ok (some ⟨least, most⟩)

/-- A count below the largest one has few digits. -/
theorem isWritable_of_lt {n : Nat} (fits : n < countLimit) :
    (Value.int n).isWritable = true := by
  rw [Value.isWritable, Numeral.isWritable_iff_isShort]
  exact isShort_of_lt_countLimit (Int.natCast_nonneg n) (Int.ofNat_lt.mpr fits)

theorem asksFor_exactly (config : Config) {least : Nat} (fits : least < countLimit) :
    AsksFor config (.exactly least) least where
  exact := .inr (.inl ⟨least, rfl⟩)
  low := .inl rfl
  high := .inl rfl
  written := List.all_eq_true.mpr (List.forall_mem_singleton.mpr (isWritable_of_lt fits))
  asked := ⟨_, _, rfl, Braces.asked?_exactly_usable fits⟩

theorem asksFor_atLeast (config : Config) {least : Nat} (fits : least < countLimit) :
    AsksFor config (.atLeast least) least where
  exact := .inl rfl
  low := .inr (.inl ⟨least, rfl⟩)
  high := .inl rfl
  written := List.all_eq_true.mpr
    (List.forall_mem_cons.mpr ⟨isWritable_of_lt fits, List.forall_mem_singleton.mpr rfl⟩)
  asked := ⟨_, _, rfl, Braces.asked?_between_usable none fits (by simp)⟩

theorem asksFor_between (config : Config) {least most : Nat} (ordered : least ≤ most)
    (fits : most < countLimit) : AsksFor config (.between least most) least where
  exact := .inl rfl
  low := .inr (.inl ⟨least, rfl⟩)
  high := .inr (.inl ⟨most, rfl⟩)
  written := List.all_eq_true.mpr (List.forall_mem_cons.mpr
    ⟨isWritable_of_lt (ordered.trans_lt fits), List.forall_mem_singleton.mpr (isWritable_of_lt fits)⟩)
  asked := ⟨_, _, rfl, Braces.asked?_between_usable (some most) (ordered.trans_lt fits)
    (by simpa using ⟨ordered, fits⟩)⟩

section Asked

variable {repetitions : Repetitions} {least : Nat} (asks : AsksFor config repetitions least)

include asks

/-- The law of a configuration with repetitions that can be used. An upper bound is no part of
it. -/
theorem law_withRepetitions (positive : 1 ≤ least) :
    law (config.withRepetitions repetitions) = wordsLaw config (endsLaw config
      (lengthLaw config ((pieceLaw config).times ⟨least, some least⟩))) := by
  obtain ⟨inner, most, given, asked⟩ := asks.asked
  have repeated : repetitionsLaw (config.withRepetitions repetitions)
      (pieceLaw (config.withRepetitions repetitions)) =
        (pieceLaw config).times ⟨least, some least⟩ := by
    rw [repetitionsLaw, given]
    dsimp only
    rw [Law.counted, asked]
    exact (merges_pieceLaw config).times_eq positive (ordered_of_asked? asked)
  rw [law, repeated]
  rfl

theorem hasBounds_withRepetitions (unbounded : lengthInner? config = none) :
    (config.withRepetitions repetitions).HasBounds := by
  obtain ⟨low, high⟩ := rangeInner?_eq_none.mp unbounded
  exact ⟨.inl low, .inl high, asks.exact, fun _ => asks.low, fun _ => asks.high⟩

/-- Repetitions that can be used can be written, so the length decides. -/
theorem isWritten_withRepetitions_iff :
    (config.withRepetitions repetitions).IsWritten ↔
      config.lengthBounds.all Value.isWritable = true :=
  ⟨fun written => written.length, fun length => ⟨asks.written, length⟩⟩

theorem exists_ofConfig_withRepetitions (general : config.IsGeneral)
    (unbounded : lengthInner? config = none) :
    ∃ matcher, Matcher.ofConfig (config.withRepetitions repetitions) = .ok matcher := by
  refine exists_ofConfig_eq (general.withRepetitions repetitions)
    (hasBounds_withRepetitions asks unbounded)
    ((isWritten_withRepetitions_iff asks).mpr (all_isWritable_of_rangeInner? unbounded)) ?_
  obtain ⟨inner, most, given, asked⟩ := asks.asked
  have length : lengthInner? (config.withRepetitions repetitions) = none := unbounded
  rw [activeInner?, length, given]
  split
  · simp [innerFault?, asked]
  · rfl

end Asked

/-! ### Bounds that say nothing -/

/-- Where pieces are thrown away, repetitions make no difference, if they can be written. -/
theorem ofConfig_withRepetitions (general : config.IsGeneral) (bounded : lengthInner? config ≠ none)
    {repetitions others : Repetitions} (written : (config.withRepetitions repetitions).IsWritten ↔
      (config.withRepetitions others).IsWritten) :
    Matcher.ofConfig (config.withRepetitions repetitions) =
      Matcher.ofConfig (config.withRepetitions others) := by
  have off : config.isOn .custom = false := by
    rw [Config.isOn, general.custom]
    rfl
  have given : config.scalar .minLength ≠ .null ∨ config.scalar .maxLength ≠ .null := by
    rw [Ne, lengthInner?, rangeInner?_eq_none] at bounded
    exact not_and_or.mp bounded
  have alike :
      (config.withRepetitions repetitions).LeavesAlike (config.withRepetitions others) := by
    by_cases listed : config.list .allowedWords = []
    · exact .length off off listed listed given rfl rfl rfl rfl rfl
    · exact .words off off listed rfl rfl
  have generalOne := general.withRepetitions repetitions
  have generalOther := general.withRepetitions others
  have built := build_eq_of_leavesAlike generalOne.unshaped generalOther.unshaped
    generalOne.toIsLiteral generalOther.toIsLiteral written alike
  rw [Matcher.ofConfig, Matcher.ofConfig, built]
  rfl

theorem ofConfig_withoutRepetitions (general : config.IsGeneral)
    (bounded : lengthInner? config ≠ none) (written : config.IsWritten) :
    Matcher.ofConfig config = Matcher.ofConfig (config.withRepetitions .none) := by
  have self := config.withRepetitions_self
  have without : (config.withRepetitions .none).IsWritten := ⟨rfl, written.length⟩
  have both := iff_of_true (self.symm ▸ written) without
  have same := ofConfig_withRepetitions general bounded both
  rwa [self] at same

/-- Two ways to ask for the same least number of pieces come to the same. -/
theorem agree_of_asksFor (general : config.IsGeneral) {repetitions others : Repetitions}
    {least : Nat} (positive : 1 ≤ least) (asks : AsksFor config repetitions least)
    (asksOther : AsksFor config others least) :
    Matcher.Agree (· = ·) (Matcher.ofConfig (config.withRepetitions repetitions))
      (Matcher.ofConfig (config.withRepetitions others)) := by
  by_cases unbounded : lengthInner? config = none
  · have bounds := hasBounds_withRepetitions asks unbounded
    have boundsOther := hasBounds_withRepetitions asksOther unbounded
    have same : law (config.withRepetitions repetitions) = law (config.withRepetitions others) := by
      rw [law_withRepetitions asks positive, law_withRepetitions asksOther positive]
    obtain ⟨matcher, compiled⟩ := exists_ofConfig_withRepetitions asks general unbounded
    obtain ⟨other, compiledOther⟩ := exists_ofConfig_withRepetitions asksOther general unbounded
    have generalOne := general.withRepetitions repetitions
    have generalOther := general.withRepetitions others
    rw [compiled, compiledOther]
    refine .accept fun text => Bool.eq_iff_iff.mpr ?_
    exact ⟨accepts_of_law_le generalOne bounds generalOther boundsOther rfl same.le compiled
        compiledOther,
      accepts_of_law_le generalOther boundsOther generalOne bounds rfl same.ge compiledOther
        compiled⟩
  · -- Bounds for the length throw the repetitions away.
    rw [ofConfig_withRepetitions general unbounded ((isWritten_withRepetitions_iff asks).trans
      (isWritten_withRepetitions_iff asksOther).symm)]
    exact Matcher.agree_self _

/-- Upper bounds for repetitions say nothing: an exact count, the same number as a lower bound, and
a lower and an upper bound come to the same. -/
theorem agree_withRepetitions {config : Config} (general : config.IsGeneral) {least most : Nat}
    (positive : 1 ≤ least) (ordered : least ≤ most) (fits : most < countLimit) :
    Matcher.Agree (· = ·) (Matcher.ofConfig (config.withRepetitions (.exactly least)))
        (Matcher.ofConfig (config.withRepetitions (.atLeast least))) ∧
      Matcher.Agree (· = ·) (Matcher.ofConfig (config.withRepetitions (.atLeast least)))
        (Matcher.ofConfig (config.withRepetitions (.between least most))) := by
  have exactly := asksFor_exactly config (ordered.trans_lt fits)
  have atLeast := asksFor_atLeast config (ordered.trans_lt fits)
  have between := asksFor_between config ordered fits
  exact ⟨agree_of_asksFor general positive exactly atLeast,
    agree_of_asksFor general positive atLeast between⟩

theorem agree_withRepetitions_sample : sample.IsGeneral ∧ (1 ≤ 2 ∧ 2 ≤ 5 ∧ 5 < countLimit) ∧
    Matcher.Agree (· = ·) (Matcher.ofConfig (sample.withRepetitions (.exactly 2)))
        (Matcher.ofConfig (sample.withRepetitions (.atLeast 2))) ∧
      Matcher.Agree (· = ·) (Matcher.ofConfig (sample.withRepetitions (.atLeast 2)))
        (Matcher.ofConfig (sample.withRepetitions (.between 2 5))) := by
  have general := isOrdinary_sample.isGeneral
  exact ⟨general, by decide, agree_withRepetitions general (by decide) (by decide) (by decide)⟩

end Pipeline

end Patternwright
