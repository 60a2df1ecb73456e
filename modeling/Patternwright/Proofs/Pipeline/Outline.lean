import Patternwright.Proofs.Number.Numeral
import Patternwright.Proofs.Pipeline.Draft
import Patternwright.Proofs.Result

/-!
# Patterns under any bounds

Bounds go between braces as they are, and what the braces then ask for is up to the reader of the
pattern: digits are a count, while a minus or the name of a truth value makes ordinary characters of
the braces, and a count may turn out to be unusable. None of these texts has a sign of the pattern
language in it. That is all that the stages need: so they are told here by what stands between the
braces, for bounds of any size that can be written at all. One bound with too many digits is an
error, whatever a later stage would make of it.

Where all bounds are counts, this comes to the same as what the stages draw.

## Main definitions

* `Config.IsBound`, `Config.HasBounds` — bounds are integers or truth values, if they are there
* `Config.IsWritten` — no bound that a stage writes has too many digits
* `Pipeline.repetitionInner?`, `Pipeline.lengthInner?` — what stands between the braces
* `Stage.outline`, `Pipeline.outline` — what a stage makes of a draft, and all stages of nothing

## Main results

* `Stage.run_stands` — a stage keeps text and draft together
* `Pipeline.isWritten_of_build` — wherever there is a pattern, its bounds could be written
* `Pipeline.build_renders` — the pattern of a configuration reads as its outline between two anchors
* `Pipeline.outlined_eq_drawn` — for counts, the outline is what the stages draw
-/

namespace Patternwright

open Regex

/-! ### Bounds -/

namespace Config

/-- The value is missing, an integer or a truth value. -/
def IsBound (value : Value) : Prop := value = .null ∨ (∃ n, value = .int n) ∨ ∃ b, value = .bool b

theorem IsCount.isBound {value : Value} : IsCount value → IsBound value := by
  rintro (absent | ⟨n, given, -⟩)
  · exact .inl absent
  · exact .inr (.inl ⟨n, given⟩)

/-- All bounds are integers or truth values, if they are there. Bounds of the repetitions do not
count beside an exact number of them. -/
structure HasBounds (config : Config) : Prop where
  minLength : IsBound (config.scalar .minLength)
  maxLength : IsBound (config.scalar .maxLength)
  exactRepetitions : IsBound (config.scalar .exactRepetitions)
  minRepetitions : config.scalar .exactRepetitions = .null →
    IsBound (config.scalar .minRepetitions)
  maxRepetitions : config.scalar .exactRepetitions = .null →
    IsBound (config.scalar .maxRepetitions)

theorem IsOrdinary.hasBounds {config : Config} (ordinary : config.IsOrdinary) :
    config.HasBounds where
  minLength := ordinary.minLength.isBound
  maxLength := ordinary.maxLength.isBound
  exactRepetitions := ordinary.exactRepetitions.isBound
  minRepetitions absent := (ordinary.minRepetitions absent).isBound
  maxRepetitions absent := (ordinary.maxRepetitions absent).isBound

/-- The bounds of the repetitions that are written: the exact number, or, without one, the two
bounds. -/
def repetitionBounds (config : Config) : List Value :=
  match config.scalar .exactRepetitions with
  | .null => [config.scalar .minRepetitions, config.scalar .maxRepetitions]
  | exact => [exact]

/-- The bounds of the length that are written. -/
def lengthBounds (config : Config) : List Value :=
  [config.scalar .minLength, config.scalar .maxLength]

/-- Every bound that a stage writes can be written. -/
structure IsWritten (config : Config) : Prop where
  repetitions : config.repetitionBounds.all Value.isWritable = true
  length : config.lengthBounds.all Value.isWritable = true

theorem IsCount.isWritable {value : Value} : IsCount value → value.isWritable = true := by
  rintro (rfl | ⟨n, rfl, short⟩)
  · rfl
  · rw [Value.isWritable]
    exact (Numeral.isWritable_iff_isShort n).mpr short

theorem IsOrdinary.isWritten {config : Config} (ordinary : config.IsOrdinary) :
    config.IsWritten where
  repetitions := by
    unfold repetitionBounds
    split
    · next absent =>
      simp [(ordinary.minRepetitions absent).isWritable, (ordinary.maxRepetitions absent).isWritable]
    · simp [ordinary.exactRepetitions.isWritable]
  length := by simp [lengthBounds, ordinary.minLength.isWritable, ordinary.maxLength.isWritable]

theorem isInner_shown {value : Value} (bound : IsBound value) : IsInner value.shown.toList := by
  rcases bound with rfl | ⟨n, rfl⟩ | ⟨b, rfl⟩
  · decide
  · exact isInner_numeral n
  · cases b <;> decide

end Config

namespace Pipeline

/-- A bound as it stands between braces, and what stands there without one. -/
def shownBound (absent : String) : Value → String
  | .null => absent
  | v => v.shown

/-- Two bounds as they stand between braces. -/
def countsText (low high : Value) : List Char :=
  (shownBound "0" low).toList ++ ',' :: (shownBound "" high).toList

theorem boundText_eq (absent : String) (v : Value) :
    boundText absent v =
      if v.isWritable then .ok (shownBound absent v) else .error .unwritable := by
  cases v <;> rfl

theorem countRange_eq (low high : Value) :
    countRange low high =
      if [low, high].all Value.isWritable then
        .ok (String.ofList (braced (countsText low high)))
      else .error .unwritable := by
  rw [countRange, boundText_eq, boundText_eq]
  have text : "\x7b" ++ shownBound "0" low ++ "," ++ shownBound "" high ++ "\x7d" =
      String.ofList (braced (countsText low high)) := by
    simp [← String.toList_inj, braced, countsText]
  cases lowShort : low.isWritable <;> cases highShort : high.isWritable <;>
    simp [bind, Except.bind, pure, Except.pure, text, lowShort, highShort]

theorem isInner_shownBound {absent : String} (plain : IsInner absent.toList) {value : Value}
    (bound : Config.IsBound value) : IsInner (shownBound absent value).toList := by
  have shown := Config.isInner_shown bound
  unfold shownBound
  split
  · exact plain
  · exact shown

theorem isInner_countsText {low high : Value} (lowBound : Config.IsBound low)
    (highBound : Config.IsBound high) : IsInner (countsText low high) :=
  isInner_append.mpr ⟨isInner_shownBound (by decide) lowBound,
    isInner_cons.mpr ⟨by decide, isInner_shownBound (by decide) highBound⟩⟩

/-- What stands between the braces for two bounds, if either is given. -/
def rangeInner? : Value → Value → Option (List Char)
  | .null, .null => none
  | low, high => some (countsText low high)

theorem rangeInner?_eq_none {low high : Value} :
    rangeInner? low high = none ↔ low = .null ∧ high = .null := by
  unfold rangeInner?
  split
  · simp
  · next given =>
    constructor
    · intro none'
      cases none'
    · rintro ⟨rfl, rfl⟩
      exact absurd rfl (given rfl)

/-- What stands between the braces for repetitions; an exact count goes before bounds. -/
def repetitionInner? (config : Config) : Option (List Char) :=
  match config.scalar .exactRepetitions with
  | .null => rangeInner? (config.scalar .minRepetitions) (config.scalar .maxRepetitions)
  | exact => some exact.shown.toList

/-- What stands between the braces for the length. -/
def lengthInner? (config : Config) : Option (List Char) :=
  rangeInner? (config.scalar .minLength) (config.scalar .maxLength)

theorem repetitions_eq (config : Config) (value : Value) :
    repetitions config value =
      match repetitionInner? config with
      | none => .ok value
      | some inner => display value >>= fun shown =>
        if config.repetitionBounds.all Value.isWritable then
          .ok (.text ("(?:" ++ shown ++ ")" ++ String.ofList (braced inner)))
        else .error .unwritable := by
  have range (low high : Value) :
      (do return Value.text ("(?:" ++ (← display value) ++ ")" ++ (← countRange low high))) =
        display value >>= fun shown =>
          if [low, high].all Value.isWritable then
            .ok (.text ("(?:" ++ shown ++ ")" ++ String.ofList (braced (countsText low high))))
          else .error .unwritable := by
    rw [countRange_eq]
    split <;> rfl
  have exact (count : Value) :
      (do return Value.text ("(?:" ++ (← display value) ++ ")\x7b" ++ (← display count) ++ "\x7d")) =
        display value >>= fun shown =>
          if [count].all Value.isWritable then
            .ok (.text ("(?:" ++ shown ++ ")" ++ String.ofList (braced count.shown.toList)))
          else .error .unwritable := by
    have text (shown : String) : "(?:" ++ shown ++ ")\x7b" ++ count.shown ++ "\x7d" =
        "(?:" ++ shown ++ ")" ++ String.ofList (braced count.shown.toList) := by
      simp [← String.toList_inj, braced]
    refine congrArg (display value >>= ·) (funext fun shown => ?_)
    rw [display]
    cases short : count.isWritable <;> simp [short, pure, Except.pure, text]
  unfold repetitions repetitionInner? rangeInner? Config.repetitionBounds
  cases config.scalar .exactRepetitions with
  | null =>
    cases config.scalar .minRepetitions with
    | null =>
      cases config.scalar .maxRepetitions with
      | null => rfl
      | _ => exact range .null _
    | _ => exact range _ _
  | _ => exact exact _

theorem lengthBounds_eq (config : Config) (value : Value) :
    lengthBounds config value =
      match lengthInner? config with
      | none => .ok value
      | some inner =>
        if config.lengthBounds.all Value.isWritable then
          .ok (.text ("^." ++ String.ofList (braced inner) ++ "$"))
        else .error .unwritable := by
  have range (low high : Value) :
      (do return Value.text ("^." ++ (← countRange low high) ++ "$")) =
        if [low, high].all Value.isWritable then
          Except.ok (.text ("^." ++ String.ofList (braced (countsText low high)) ++ "$"))
        else .error .unwritable := by
    rw [countRange_eq]
    split <;> rfl
  unfold lengthBounds lengthInner? rangeInner? Config.lengthBounds
  cases config.scalar .minLength with
  | null =>
    cases config.scalar .maxLength with
    | null => rfl
    | _ => exact range .null _
  | _ => exact range _ _

/-- Bounds that are not there can be written. -/
theorem all_isWritable_of_rangeInner? {low high : Value} (absent : rangeInner? low high = none) :
    [low, high].all Value.isWritable = true := by
  obtain ⟨rfl, rfl⟩ := rangeInner?_eq_none.mp absent
  rfl

theorem all_repetitionBounds_of_none {config : Config} (absent : repetitionInner? config = none) :
    config.repetitionBounds.all Value.isWritable = true := by
  unfold repetitionInner? at absent
  unfold Config.repetitionBounds
  split at absent
  · exact all_isWritable_of_rangeInner? absent
  · cases absent

theorem isInner_of_rangeInner? {low high : Value} (lowBound : Config.IsBound low)
    (highBound : Config.IsBound high) {inner : List Char}
    (given : rangeInner? low high = some inner) : IsInner inner := by
  unfold rangeInner? at given
  split at given
  · cases given
  · obtain rfl := Option.some.inj given
    exact isInner_countsText lowBound highBound

theorem isInner_of_repetitionInner? {config : Config} (bounds : config.HasBounds)
    {inner : List Char} (given : repetitionInner? config = some inner) : IsInner inner := by
  unfold repetitionInner? at given
  split at given
  · next exact =>
    exact isInner_of_rangeInner? (bounds.minRepetitions exact) (bounds.maxRepetitions exact) given
  · obtain rfl := Option.some.inj given
    exact Config.isInner_shown bounds.exactRepetitions

theorem isInner_of_lengthInner? {config : Config} (bounds : config.HasBounds) {inner : List Char}
    (given : lengthInner? config = some inner) : IsInner inner :=
  isInner_of_rangeInner? bounds.minLength bounds.maxLength given

end Pipeline

/-! ### Stages in outline -/

/-- What a stage makes of the row that is there so far, whatever the bounds are. -/
def Stage.outline (stage : Stage) (config : Config) (draft : Draft) : Draft :=
  match stage with
  | .repetitions =>
    match Pipeline.repetitionInner? config with
    | none => draft
    | some inner => draft.bind fun row => counted inner (.sequence row)
  | .lengthBounds =>
    match Pipeline.lengthInner? config with
    | none => draft
    | some inner => (counted inner (.char .any)).map fun row =>
        .anchor .lineStart :: (row ++ [.anchor .lineEnd])
  | stage => stage.draw config draft

namespace Pipeline

/-- What all stages make of nothing, whatever the bounds are. -/
def outline (config : Config) : Draft :=
  Stage.all.foldl (fun draft stage => stage.outline config draft) (.ok [])

/-- The outline, between the anchors of the whole text. -/
def outlined (config : Config) : Draft :=
  (outline config).map fun row => .anchor .lineStart :: (row ++ [.anchor .lineEnd])

/-! ### Text and outline -/

/-- Braces behind a group of what is there. -/
theorem stands_counted {s : String} {draft : Draft} (renders : Renders s.toList draft)
    {inner : List Char} (plain : IsInner inner) :
    Stands (.text ("(?:" ++ s ++ ")" ++ String.ofList (braced inner)))
      (draft.bind fun row => counted inner (.sequence row)) := by
  refine ⟨_, rfl, ?_, ?_⟩
  · have group := renders.counted plain
    simpa using group
  · cases draft with
    | error cause => simp [Except.bind]
    | ok row => simpa [Except.bind] using counted_ne_nil inner (.sequence row)

theorem repetitions_stands {config : Config} (bounds : config.HasBounds)
    (written : config.IsWritten) {value : Value} {draft : Draft} (stands : Stands value draft) :
    ∃ next, repetitions config value = .ok next ∧
      Stands next (Stage.repetitions.outline config draft) := by
  obtain ⟨s, rfl, renders, blank⟩ := stands
  rw [repetitions_eq, Stage.outline]
  cases given : repetitionInner? config with
  | none => exact ⟨_, rfl, s, rfl, renders, blank⟩
  | some inner =>
    exact ⟨_, if_pos written.repetitions,
      stands_counted renders (isInner_of_repetitionInner? bounds given)⟩

/-- Braces behind a dot, between anchors. -/
theorem stands_length {inner : List Char} (plain : IsInner inner) :
    Stands (.text ("^." ++ String.ofList (braced inner) ++ "$"))
      ((counted inner (.char .any)).map fun row =>
        .anchor .lineStart :: (row ++ [.anchor .lineEnd])) := by
  have begins : Reads ['^'] [.anchor .lineStart] := reads_anchor (.inl ⟨rfl, rfl⟩)
  have ends : Reads ['$'] [.anchor .lineEnd] := reads_anchor (.inr ⟨rfl, rfl⟩)
  have dots := readsAtom_dot.renders_counted plain (calm_cons rfl)
  have whole := begins.append_renders (dots.append_reads ends)
  refine ⟨_, rfl, ?_, ?_⟩ <;> cases drawn : counted inner (.char .any) <;> rw [drawn] at whole
  · simpa [Except.map] using whole
  · simpa [Except.map] using whole
  all_goals simp [Except.map]

theorem lengthBounds_stands {config : Config} (bounds : config.HasBounds)
    (written : config.IsWritten) {value : Value} {draft : Draft} (stands : Stands value draft) :
    ∃ next, lengthBounds config value = .ok next ∧
      Stands next (Stage.lengthBounds.outline config draft) := by
  rw [lengthBounds_eq, Stage.outline]
  cases given : lengthInner? config with
  | none => exact ⟨value, rfl, stands⟩
  | some inner =>
    exact ⟨_, if_pos written.length, stands_length (isInner_of_lengthInner? bounds given)⟩

end Pipeline

/-- A stage keeps text and draft together. -/
theorem Stage.run_stands {config : Config} (general : config.IsGeneral) (bounds : config.HasBounds)
    (written : config.IsWritten) (stage : Stage) {value : Value} {draft : Draft}
    (stands : Stands value draft) :
    ∃ next, stage.run config value = .ok next ∧ Stands next (stage.outline config draft) := by
  have literal := general.toIsLiteral
  cases stage with
  | characterClass => exact ⟨_, rfl, Pipeline.characterClass_stands config⟩
  | lookarounds =>
    obtain ⟨s, built, next⟩ := Pipeline.lookarounds_stands literal stands
    exact ⟨.text s, by rw [Stage.run, built]; rfl, next⟩
  | repetitions => exact Pipeline.repetitions_stands bounds written stands
  | lengthBounds => exact Pipeline.lengthBounds_stands bounds written stands
  | ends =>
    obtain ⟨opened, built, first⟩ := Pipeline.opening_stands literal.opening stands
    obtain ⟨closed, builtLast, last⟩ := Pipeline.closing_stands literal.closing first
    refine ⟨closed, by rw [Stage.run, built]; exact builtLast, ?_⟩
    cases draft <;> exact last
  | words =>
    obtain ⟨allowed, built, first⟩ := Pipeline.allowedWords_stands literal stands
    obtain ⟨next, builtLast, last⟩ := Pipeline.disallowedWords_stands literal first
    exact ⟨next, by rw [Stage.run, built]; exact builtLast, last⟩
  | custom =>
    refine ⟨value, ?_, stands⟩
    -- An empty custom pattern counts as none.
    have off : config.isOn .custom = false := by
      rw [Config.isOn, general.custom]
      rfl
    simp [Stage.run, Pipeline.custom, off]

namespace Pipeline

/-- A run of stages keeps text and draft together. -/
theorem runStages_stands {config : Config} (general : config.IsGeneral)
    (bounds : config.HasBounds) (written : config.IsWritten) (stages : List Stage) :
    ∀ {value : Value} {draft : Draft}, Stands value draft →
      ∃ next, runStages config stages value = .ok next ∧
        Stands next (stages.foldl (fun draft stage => stage.outline config draft) draft) := by
  -- What stands after one stage is what the next one starts from.
  induction stages with
  | nil =>
    intro value draft stands
    exact ⟨value, rfl, stands⟩
  | cons stage stages ih =>
    intro value draft stands
    obtain ⟨middle, built, first⟩ := stage.run_stands general bounds written stands
    obtain ⟨next, builtLast, last⟩ := ih first
    exact ⟨next, by rw [runStages, built]; exact builtLast, last⟩

/-- Every stage of a run that succeeds has succeeded. -/
theorem exists_ok_of_runStages {config : Config} (stages : List Stage) :
    ∀ {value result : Value}, runStages config stages value = .ok result →
      ∀ stage ∈ stages, ∃ before after, stage.run config before = .ok after := by
  induction stages with
  | nil => simp
  | cons stage stages ih =>
    intro value result built
    obtain ⟨middle, first, later⟩ := bind_eq_ok_iff.mp built
    exact List.forall_mem_cons.mpr ⟨⟨value, middle, first⟩, ih later⟩

/-- A configuration without a shape that has a pattern has bounds that can be written. -/
theorem isWritten_of_build {config : Config} (unshaped : Shape.select? config = none)
    {built : Option Shape × String} (succeeds : build config = .ok built) : config.IsWritten := by
  rw [build, unshaped] at succeeds
  obtain ⟨value, ran, -⟩ := bind_eq_ok_iff.mp succeeds
  have each := exists_ok_of_runStages Stage.all ran
  obtain ⟨_, _, repeated⟩ := each .repetitions (by decide)
  obtain ⟨_, _, measured⟩ := each .lengthBounds (by decide)
  rw [Stage.run, repetitions_eq] at repeated
  rw [Stage.run, lengthBounds_eq] at measured
  constructor
  · split at repeated
    · next absent => exact all_repetitionBounds_of_none absent
    · obtain ⟨_, -, written⟩ := bind_eq_ok_iff.mp repeated
      split at written
      · next short => exact short
      · cases written
  · split at measured
    · next absent => exact all_isWritable_of_rangeInner? absent
    · split at measured
      · next short => exact short
      · cases measured

/-- The pattern of a configuration reads as its outline, between two anchors. -/
theorem build_renders {config : Config} (general : config.IsGeneral) (bounds : config.HasBounds)
    (written : config.IsWritten) :
    ∃ text, build config = .ok (none, text) ∧ Renders text.toList (outlined config) := by
  have start : Stands (.text "") (.ok []) := ⟨"", rfl, reads_nil, by simp⟩
  obtain ⟨value, built, s, rfl, renders, -⟩ := runStages_stands general bounds written Stage.all start
  have begins : Reads ['^'] [.anchor .lineStart] := reads_anchor (.inl ⟨rfl, rfl⟩)
  have ends : Reads ['$'] [.anchor .lineEnd] := reads_anchor (.inr ⟨rfl, rfl⟩)
  refine ⟨"^" ++ s ++ "$", ?_, ?_⟩
  · rw [build, general.unshaped, run, built]
    rfl
  · have whole := begins.append_renders (renders.append_reads ends)
    rw [← outline] at whole
    rw [outlined]
    cases drew : outline config <;> rw [drew] at whole
    · simpa [Except.map] using whole
    · simpa [Except.map] using whole

/-! ### Counts -/

/-- Two counts are written as the braces for them have it. -/
theorem rangeInner?_eq {low high : Value} (lowCount : Config.IsCount low)
    (highCount : Config.IsCount high) :
    rangeInner? low high = (between? low.count? high.count?).map Braces.body := by
  have zero : "0".toList = numeral 0 := rfl
  rcases lowCount with rfl | ⟨least, rfl, -⟩ <;> rcases highCount with rfl | ⟨most, rfl, -⟩ <;>
    simp [rangeInner?, between?, countsText, shownBound, Value.count?, Braces.body, zero, numeral,
      Value.shown, Value.quoted]

theorem isShort_of_count? {value : Value} (counted : Config.IsCount value) :
    ∀ n, value.count? = some n → IsShort n := by
  rintro n given
  rcases counted with rfl | ⟨m, rfl, short⟩
  · cases given
  · obtain rfl := Option.some.inj given
    exact short

theorem isShort_of_between? {low high : Option Int} (lowShort : ∀ n, low = some n → IsShort n)
    (highShort : ∀ n, high = some n → IsShort n) {braces : Braces}
    (given : between? low high = some braces) : braces.IsShort := by
  unfold between? at given
  split at given
  · cases given
  · obtain rfl := Option.some.inj given
    intro count member
    rcases List.mem_cons.mp member with rfl | member
    · -- A lower bound that is not given is zero.
      cases low with
      | none => exact isShort_of_digit (by decide)
      | some least => exact lowShort least rfl
    · exact highShort count (Option.mem_toList.mp member)

section Ordinary

variable {config : Config} (ordinary : config.IsOrdinary)

include ordinary

theorem repetitionInner?_eq :
    repetitionInner? config = (repetitionBraces? config).map Braces.body := by
  unfold repetitionInner? repetitionBraces? Config.count?
  rcases ordinary.exactRepetitions with absent | ⟨count, given, -⟩
  · rw [absent]
    exact rangeInner?_eq (ordinary.minRepetitions absent) (ordinary.maxRepetitions absent)
  · rw [given]
    rfl

theorem lengthInner?_eq : lengthInner? config = (lengthBraces? config).map Braces.body :=
  rangeInner?_eq ordinary.minLength ordinary.maxLength

theorem isShort_of_repetitionBraces? {braces : Braces}
    (given : repetitionBraces? config = some braces) : braces.IsShort := by
  unfold repetitionBraces? Config.count? at given
  rcases ordinary.exactRepetitions with absent | ⟨count, exact, short⟩
  · rw [absent] at given
    exact isShort_of_between? (isShort_of_count? (ordinary.minRepetitions absent))
      (isShort_of_count? (ordinary.maxRepetitions absent)) given
  · rw [exact] at given
    obtain rfl := Option.some.inj given
    intro other member
    obtain rfl := List.mem_singleton.mp member
    exact short

theorem isShort_of_lengthBraces? {braces : Braces} (given : lengthBraces? config = some braces) :
    braces.IsShort :=
  isShort_of_between? (isShort_of_count? ordinary.minLength) (isShort_of_count? ordinary.maxLength)
    given

/-- Where bounds are counts, a stage makes of a draft what it draws. -/
theorem outline_eq_draw (stage : Stage) (draft : Draft) :
    stage.outline config draft = stage.draw config draft := by
  cases stage with
  | repetitions =>
    rw [Stage.outline, Stage.draw, repetitionInner?_eq ordinary]
    cases given : repetitionBraces? config with
    | none => rfl
    | some braces =>
      have short := isShort_of_repetitionBraces? ordinary given
      simp only [Option.map_some, Braces.repeated_eq_counted short]
  | lengthBounds =>
    rw [Stage.outline, Stage.draw, lengthInner?_eq ordinary]
    cases given : lengthBraces? config with
    | none => rfl
    | some braces =>
      have short := isShort_of_lengthBraces? ordinary given
      simp only [Option.map_some, Braces.repeated_eq_counted short]
  | _ => rfl

/-- Where bounds are counts, the outline is what the stages draw. -/
theorem outlined_eq_drawn : outlined config = drawn config := by
  have stages : (fun draft stage => Stage.outline stage config draft) =
      fun draft stage => Stage.draw stage config draft :=
    funext fun draft => funext fun stage => outline_eq_draw ordinary stage draft
  rw [outlined, drawn, outline, draw, stages]

end Ordinary

end Pipeline

end Patternwright
