import Patternwright.Proofs.Pipeline.Outline
import Patternwright.Proofs.Result

/-!
# What a configuration overrides

Parts of a configuration take the place of others. A shape takes the place of all stages and of the
shapes behind it. Without a shape, a stage may throw away what is there so far, and then nothing is
left of the fields that only the stages before it read; an exact number of repetitions takes the
place of bounds for it.

The stages whose work is thrown away are run all the same, and one that failed would spoil the
pattern. With texts for ends and words, and bounds that can be written, none of them does: each makes
a text of a text, whatever the other fields hold. Any other value at an end or in a list of words
makes one of them fail, and so does a bound that has too many digits.

So two configurations that agree on what is left have the same pattern, or fail alike, unless only
one of them has a bound with too many digits.

## Main definitions

* `Stage.Replaces` — a stage puts the same in the place of whatever two configurations had
* `Shape.ReadsAlike` — two configurations agree on what the pattern of a shape depends on
* `Config.LeavesAlike` — two configurations agree on what is left in the end

## Main results

* `Stage.run_text` — a stage before the last makes a text of a text
* `Pipeline.isLiteral_of_build` — ends and words are texts wherever there is a pattern
* `Pipeline.run_eq_of_replaces` — what comes before a stage that replaces it makes no difference
* `Pipeline.build_eq_of_alike` — configurations that agree on what is left have the same pattern
* `Pipeline.not_build_eq_of_leavesAlike` — not if a bound can be written in only one of them
-/

namespace Patternwright

namespace Pipeline

variable {config other : Config}

/-! ### Texts stay texts -/

theorem repetitions_text (written : config.repetitionBounds.all Value.isWritable = true)
    (s : String) : ∃ t, repetitions config (.text s) = .ok (.text t) := by
  rw [repetitions_eq]
  cases repetitionInner? config with
  | none => exact ⟨s, rfl⟩
  | some inner => exact ⟨_, if_pos written⟩

theorem repetitions_of_unwritable
    (unwritten : ¬ config.repetitionBounds.all Value.isWritable = true) (s : String) :
    repetitions config (.text s) = .error .unwritable := by
  rw [repetitions_eq]
  cases given : repetitionInner? config with
  | none => exact absurd (all_repetitionBounds_of_none given) unwritten
  | some inner => exact if_neg unwritten

theorem lengthBounds_text (written : config.lengthBounds.all Value.isWritable = true)
    (s : String) : ∃ t, lengthBounds config (.text s) = .ok (.text t) := by
  rw [lengthBounds_eq]
  cases lengthInner? config with
  | none => exact ⟨s, rfl⟩
  | some inner => exact ⟨_, if_pos written⟩

theorem lengthBounds_of_unwritable (unwritten : ¬ config.lengthBounds.all Value.isWritable = true)
    (value : Value) : lengthBounds config value = .error .unwritable := by
  rw [lengthBounds_eq]
  cases given : lengthInner? config with
  | none => exact absurd (all_isWritable_of_rangeInner? given) unwritten
  | some inner => exact if_neg unwritten

theorem allowedWords_text (literal : config.IsLiteral) (s : String) :
    ∃ t, allowedWords config (.text s) = .ok (.text t) := by
  by_cases unlisted : config.list .allowedWords = []
  · exact ⟨s, allowedWords_of_eq_nil unlisted _⟩
  · obtain ⟨text, -, built⟩ := allowedWords_eq literal unlisted
    exact ⟨_, built _⟩

theorem disallowedWords_text (literal : config.IsLiteral) (s : String) :
    ∃ t, disallowedWords config (.text s) = .ok (.text t) := by
  by_cases unlisted : config.list .disallowedWords = []
  · exact ⟨s, disallowedWords_of_eq_nil unlisted _⟩
  · obtain ⟨text, -, built⟩ := disallowedWords_eq literal unlisted
    exact ⟨_, built _⟩

end Pipeline

/-- A stage before the last makes a text of a text, whatever values there are for bounds, as long as
these can be written. -/
theorem Stage.run_text {config : Config} (literal : config.IsLiteral) (written : config.IsWritten)
    {stage : Stage} (early : stage ≠ .custom) (s : String) :
    ∃ t, stage.run config (.text s) = .ok (.text t) := by
  cases stage with
  | characterClass => exact ⟨_, rfl⟩
  | lookarounds =>
    obtain ⟨ahead, -, built⟩ := Pipeline.lookarounds_eq literal
    exact ⟨_, by rw [Stage.run, built s]; rfl⟩
  | repetitions => exact Pipeline.repetitions_text written.repetitions s
  | lengthBounds => exact Pipeline.lengthBounds_text written.length s
  | ends =>
    exact ⟨_, by
      rw [Stage.run, Pipeline.opening_eq literal.opening s]
      exact Pipeline.closing_eq literal.closing _⟩
  | words =>
    obtain ⟨allowed, built⟩ := Pipeline.allowedWords_text literal s
    obtain ⟨t, builtLast⟩ := Pipeline.disallowedWords_text literal allowed
    exact ⟨t, by rw [Stage.run, built]; exact builtLast⟩
  | custom => exact absurd rfl early

/-- Whatever two configurations have so far, a stage puts the same in its place. -/
def Stage.Replaces (stage : Stage) (config other : Config) : Prop :=
  ∀ value replaced, stage.run config value = stage.run other replaced

/-- A stage does the same for two configurations. -/
def Stage.RunsAlike (stage : Stage) (config other : Config) : Prop :=
  ∀ value, stage.run config value = stage.run other value

namespace Pipeline

variable {config other : Config}

theorem runStages_text (literal : config.IsLiteral) (written : config.IsWritten)
    (stages : List Stage) :
    (∀ stage ∈ stages, stage ≠ .custom) →
      ∀ s, ∃ t, runStages config stages (.text s) = .ok (.text t) := by
  -- The text that one stage leaves is what the next one starts from.
  induction stages with
  | nil => exact fun _ s => ⟨s, rfl⟩
  | cons stage stages ih =>
    intro early s
    obtain ⟨first, later⟩ := List.forall_mem_cons.mp early
    obtain ⟨middle, built⟩ := Stage.run_text literal written first s
    obtain ⟨t, builtLast⟩ := ih later middle
    exact ⟨t, by rw [runStages, built]; exact builtLast⟩

theorem runStages_append (config : Config) (stages more : List Stage) :
    ∀ value, runStages config (stages ++ more) value =
      (runStages config stages value).bind (runStages config more) := by
  induction stages with
  | nil => exact fun _ => rfl
  | cons stage stages ih =>
    intro value
    rw [List.cons_append, runStages, runStages]
    cases stage.run config value with
    | error cause => rfl
    | ok middle => exact ih middle

theorem runStages_congr {stages : List Stage} :
    (∀ stage ∈ stages, stage.RunsAlike config other) →
      ∀ value, runStages config stages value = runStages other stages value := by
  induction stages with
  | nil => exact fun _ _ => rfl
  | cons stage stages ih =>
    intro alike value
    obtain ⟨first, later⟩ := List.forall_mem_cons.mp alike
    rw [runStages, runStages, first value]
    cases stage.run other value with
    | error cause => rfl
    | ok middle => exact ih later middle

/-- What comes before a stage that replaces it makes no difference. -/
theorem run_eq_of_replaces (literal : config.IsLiteral) (written : config.IsWritten)
    (literalOther : other.IsLiteral) (writtenOther : other.IsWritten) {before after : List Stage}
    {stage : Stage} (split : Stage.all = before ++ stage :: after)
    (early : ∀ stage ∈ before, stage ≠ .custom) (replaces : stage.Replaces config other)
    (alike : ∀ stage ∈ after, stage.RunsAlike config other) : run config = run other := by
  obtain ⟨s, built⟩ := runStages_text literal written before early ""
  obtain ⟨t, builtOther⟩ := runStages_text literalOther writtenOther before early ""
  rw [run, run, split, runStages_append, runStages_append, built, builtOther]
  change runStages config (stage :: after) (.text s) = runStages other (stage :: after) (.text t)
  rw [runStages, runStages, replaces (.text s) (.text t)]
  cases stage.run other (.text t) with
  | error cause => rfl
  | ok middle => exact runStages_congr alike middle

/-! ### Bounds that cannot be written -/

/-- A bound with too many digits is an error, and whatever the later stages would make of it does
not matter. -/
theorem run_of_not_isWritten (literal : config.IsLiteral) (unwritten : ¬ config.IsWritten) :
    run config = .error .unwritable := by
  obtain ⟨ahead, -, looked⟩ := lookarounds_eq literal
  -- The first two stages leave a text, and the next two have the bounds to write.
  obtain ⟨s, start⟩ : ∃ s, runStages config [.characterClass, .lookarounds] (.text "") =
      .ok (.text s) := ⟨_, by rw [runStages, Stage.run, ok_bind, runStages, Stage.run, looked]; rfl⟩
  have split : Stage.all = [.characterClass, .lookarounds] ++
      .repetitions :: .lengthBounds :: [.ends, .words, .custom] := rfl
  rw [run, split, runStages_append, start]
  change runStages config (.repetitions :: .lengthBounds :: _) (.text s) = _
  rw [runStages, Stage.run]
  by_cases repeated : config.repetitionBounds.all Value.isWritable = true
  · obtain ⟨t, built⟩ := repetitions_text repeated s
    have measured : ¬ config.lengthBounds.all Value.isWritable = true := fun measured =>
      unwritten ⟨repeated, measured⟩
    rw [built, ok_bind, runStages, Stage.run, lengthBounds_of_unwritable measured, error_bind]
  · rw [repetitions_of_unwritable repeated, error_bind]

theorem build_of_not_isWritten (unshaped : Shape.select? config = none)
    (literal : config.IsLiteral) (unwritten : ¬ config.IsWritten) :
    build config = .error .unwritable := by
  rw [build, unshaped, run_of_not_isWritten literal unwritten]
  rfl

theorem ofConfig_of_not_isWritten (general : config.IsGeneral) (unwritten : ¬ config.IsWritten) :
    Matcher.ofConfig config = .error .unwritable := by
  rw [Matcher.ofConfig, build_of_not_isWritten general.unshaped general.toIsLiteral unwritten]
  rfl

/-! ### Only texts build -/

theorem exists_text_of_literal {value : Value} {escaped : String}
    (built : literal value = .ok escaped) : ∃ s, value = .text s := by
  cases value with
  | text s => exact ⟨s, rfl⟩
  | _ => cases built

theorem exists_text_of_lookaheads {mark : String} {words : List Value} {parts : List String}
    (built : words.mapM (lookahead mark) = .ok parts) : ∀ word ∈ words, ∃ s, word = .text s := by
  intro word member
  obtain ⟨part, built⟩ := exists_ok_of_mapM words built word member
  obtain ⟨escaped, built, -⟩ := bind_eq_ok_iff.mp built
  exact exists_text_of_literal built

theorem exists_text_of_alternation {words : List Value} {text : String}
    (built : alternation words = .ok text) : ∀ word ∈ words, ∃ s, word = .text s := by
  intro word member
  obtain ⟨parts, built, -⟩ := bind_eq_ok_iff.mp built
  obtain ⟨escaped, built⟩ := exists_ok_of_mapM words built word member
  exact exists_text_of_literal built

theorem isText_of_opening {value opened : Value} (built : opening config value = .ok opened) :
    Config.IsText (config.scalar .opening) := by
  unfold opening at built
  split at built
  · next absent => exact .inl absent
  · obtain ⟨escaped, built, -⟩ := bind_eq_ok_iff.mp built
    exact .inr (exists_text_of_literal built)

theorem isText_of_closing {value closed : Value} (built : closing config value = .ok closed) :
    Config.IsText (config.scalar .closing) := by
  unfold closing at built
  split at built
  · next absent => exact .inl absent
  · obtain ⟨escaped, built, -⟩ := bind_eq_ok_iff.mp built
    exact .inr (exists_text_of_literal built)

theorem exists_text_of_allowedWords {value next : Value}
    (built : allowedWords config value = .ok next) :
    ∀ word ∈ config.list .allowedWords, ∃ s, word = .text s := by
  unfold allowedWords at built
  split at built
  · next unlisted => simp [unlisted]
  · obtain ⟨text, built, -⟩ := bind_eq_ok_iff.mp built
    exact exists_text_of_alternation built

theorem exists_text_of_disallowedWords {value next : Value}
    (built : disallowedWords config value = .ok next) :
    ∀ word ∈ config.list .disallowedWords, ∃ s, word = .text s := by
  unfold disallowedWords at built
  split at built
  · next unlisted => simp [unlisted]
  · obtain ⟨text, built, -⟩ := bind_eq_ok_iff.mp built
    exact exists_text_of_alternation built

/-- Only a configuration whose ends and words are texts has a pattern. -/
theorem isLiteral_of_build (unshaped : Shape.select? config = none) {built : Option Shape × String}
    (succeeds : build config = .ok built) : config.IsLiteral := by
  rw [build, unshaped] at succeeds
  obtain ⟨value, ran, -⟩ := bind_eq_ok_iff.mp succeeds
  have each := exists_ok_of_runStages Stage.all ran
  obtain ⟨_, _, looked⟩ := each .lookarounds (by decide)
  obtain ⟨_, looked, -⟩ := bind_eq_ok_iff.mp looked
  obtain ⟨_, present, looked⟩ := bind_eq_ok_iff.mp looked
  obtain ⟨_, absent, -⟩ := bind_eq_ok_iff.mp looked
  obtain ⟨_, _, ended⟩ := each .ends (by decide)
  obtain ⟨_, begins, ends⟩ := bind_eq_ok_iff.mp ended
  obtain ⟨_, _, listed⟩ := each .words (by decide)
  obtain ⟨_, allowed, disallowed⟩ := bind_eq_ok_iff.mp listed
  refine ⟨isText_of_opening begins, isText_of_closing ends, fun field brandless => ?_⟩
  cases field with
  | mustContain => exact exists_text_of_lookaheads present
  | mustNotContain => exact exists_text_of_lookaheads absent
  | allowedWords => exact exists_text_of_allowedWords allowed
  | disallowedWords => exact exists_text_of_disallowedWords disallowed
  | cardBrands => exact absurd rfl brandless

end Pipeline

/-! ### What is left -/

/-- Two configurations agree on what is left where one part takes the place of others. -/
inductive Config.LeavesAlike (config other : Config) : Prop
  /-- A custom pattern leaves nothing else. -/
  | custom (on : config.isOn .custom = true) (same : config.scalar .custom = other.scalar .custom)
  /-- A list of allowed words leaves the disallowed ones. -/
  | words (off : config.isOn .custom = false) (offOther : other.isOn .custom = false)
      (listed : config.list .allowedWords ≠ [])
      (allowed : config.list .allowedWords = other.list .allowedWords)
      (disallowed : config.list .disallowedWords = other.list .disallowedWords)
  /-- A bound of the length leaves the ends and the disallowed words. -/
  | length (off : config.isOn .custom = false) (offOther : other.isOn .custom = false)
      (unlisted : config.list .allowedWords = []) (unlistedOther : other.list .allowedWords = [])
      (bounded : config.scalar .minLength ≠ .null ∨ config.scalar .maxLength ≠ .null)
      (minLength : config.scalar .minLength = other.scalar .minLength)
      (maxLength : config.scalar .maxLength = other.scalar .maxLength)
      (opening : config.scalar .opening = other.scalar .opening)
      (closing : config.scalar .closing = other.scalar .closing)
      (disallowed : config.list .disallowedWords = other.list .disallowedWords)
  /-- An exact number of repetitions leaves all but the bounds of their number. -/
  | count (counted : config.scalar .exactRepetitions ≠ .null)
      (scalars : ∀ field, field ≠ .minRepetitions → field ≠ .maxRepetitions →
        config.scalar field = other.scalar field)
      (lists : config.list = other.list)

namespace Pipeline

variable {config other : Config}

theorem custom_replaces (on : config.isOn .custom = true)
    (same : config.scalar .custom = other.scalar .custom) :
    Stage.custom.Replaces config other := by
  intro value replaced
  have onOther : other.isOn .custom = true := by
    rw [Config.isOn, ← same]
    exact on
  simp [Stage.run, custom, on, onOther, same]

theorem custom_runsAlike (off : config.isOn .custom = false)
    (offOther : other.isOn .custom = false) : Stage.custom.RunsAlike config other := by
  intro value
  simp [Stage.run, custom, off, offOther]

theorem words_run_congr {value replaced : Value}
    (allowed : allowedWords config value = allowedWords other replaced)
    (disallowed : config.list .disallowedWords = other.list .disallowedWords) :
    Stage.words.run config value = Stage.words.run other replaced := by
  have later : disallowedWords config = disallowedWords other :=
    funext fun value => by rw [disallowedWords, disallowedWords, disallowed]
  rw [Stage.run, Stage.run, allowed, later]

theorem words_replaces (listed : config.list .allowedWords ≠ [])
    (allowed : config.list .allowedWords = other.list .allowedWords)
    (disallowed : config.list .disallowedWords = other.list .disallowedWords) :
    Stage.words.Replaces config other := by
  intro value replaced
  refine words_run_congr ?_ disallowed
  obtain ⟨word, words, given⟩ := List.exists_cons_of_ne_nil listed
  rw [allowedWords, allowedWords, ← allowed, given]

theorem words_runsAlike (allowed : config.list .allowedWords = other.list .allowedWords)
    (disallowed : config.list .disallowedWords = other.list .disallowedWords) :
    Stage.words.RunsAlike config other := by
  intro value
  refine words_run_congr ?_ disallowed
  rw [allowedWords, allowedWords, allowed]

theorem lengthBounds_replaces
    (bounded : config.scalar .minLength ≠ .null ∨ config.scalar .maxLength ≠ .null)
    (minLength : config.scalar .minLength = other.scalar .minLength)
    (maxLength : config.scalar .maxLength = other.scalar .maxLength) :
    Stage.lengthBounds.Replaces config other := by
  intro value replaced
  have inner : lengthInner? config = lengthInner? other := by
    rw [lengthInner?, lengthInner?, minLength, maxLength]
  have same : config.lengthBounds = other.lengthBounds := by
    rw [Config.lengthBounds, Config.lengthBounds, minLength, maxLength]
  rw [Stage.run, Stage.run, lengthBounds_eq, lengthBounds_eq, ← inner, ← same]
  cases given : lengthInner? config with
  | none =>
    obtain ⟨low, high⟩ := rangeInner?_eq_none.mp given
    rcases bounded with bound | bound <;> contradiction
  | some inner => rfl

theorem ends_runsAlike (opens : config.scalar .opening = other.scalar .opening)
    (closes : config.scalar .closing = other.scalar .closing) :
    Stage.ends.RunsAlike config other := by
  intro value
  have opened : opening config value = opening other value := by rw [opening, opening, opens]
  have closed : closing config = closing other :=
    funext fun value => by rw [closing, closing, closes]
  rw [Stage.run, Stage.run, opened, closed]

theorem repetitions_runsAlike (counted : config.scalar .exactRepetitions ≠ .null)
    (same : config.scalar .exactRepetitions = other.scalar .exactRepetitions) :
    Stage.repetitions.RunsAlike config other := by
  intro value
  have inner : repetitionInner? config = repetitionInner? other := by
    rw [repetitionInner?, repetitionInner?, ← same]
    cases given : config.scalar .exactRepetitions with
    | null => exact absurd given counted
    | _ => rfl
  have bounds : config.repetitionBounds = other.repetitionBounds := by
    rw [Config.repetitionBounds, Config.repetitionBounds, ← same]
    cases given : config.scalar .exactRepetitions with
    | null => exact absurd given counted
    | _ => rfl
  rw [Stage.run, Stage.run, repetitions_eq, repetitions_eq, inner, bounds]

/-- A configuration that differs in the bounds of the number of repetitions only. -/
theorem eq_setScalar_bounds
    (scalars : ∀ field, field ≠ .minRepetitions → field ≠ .maxRepetitions →
      config.scalar field = other.scalar field) (lists : config.list = other.list) :
    other = (config.setScalar .minRepetitions (other.scalar .minRepetitions)).setScalar
      .maxRepetitions (other.scalar .maxRepetitions) := by
  obtain ⟨scalar, list⟩ := other
  obtain rfl : config.list = list := lists
  refine congrArg₂ Config.mk (funext fun field => ?_) rfl
  by_cases most : field = .maxRepetitions
  · simp [most]
  · by_cases least : field = .minRepetitions
    · simp [least, Config.setScalar]
    · simp [most, least, Config.setScalar, scalars field least most]

/-- Only the stage for repetitions reads the bounds of their number. -/
theorem runsAlike_of_count (counted : config.scalar .exactRepetitions ≠ .null)
    (scalars : ∀ field, field ≠ .minRepetitions → field ≠ .maxRepetitions →
      config.scalar field = other.scalar field)
    (lists : config.list = other.list) (stage : Stage) : stage.RunsAlike config other := by
  have exact := scalars .exactRepetitions (by decide) (by decide)
  cases stage with
  | repetitions => exact repetitions_runsAlike counted exact
  | _ =>
    -- No other stage looks at the bounds, so setting them again changes nothing.
    rw [eq_setScalar_bounds scalars lists]
    exact fun _ => rfl

/-- Configurations that agree on what is left have the same pattern between the anchors, if the
bounds can be written in both. -/
theorem run_eq_of_leavesAlike (literal : config.IsLiteral) (written : config.IsWritten)
    (literalOther : other.IsLiteral) (writtenOther : other.IsWritten)
    (alike : config.LeavesAlike other) : run config = run other := by
  cases alike with
  | custom on same =>
    have split : Stage.all = [.characterClass, .lookarounds, .repetitions, .lengthBounds, .ends,
        .words] ++ Stage.custom :: [] := rfl
    exact run_eq_of_replaces literal written literalOther writtenOther split (by decide)
      (custom_replaces on same) (by simp)
  | words off offOther listed allowed disallowed =>
    have split : Stage.all = [.characterClass, .lookarounds, .repetitions, .lengthBounds, .ends] ++
        Stage.words :: [.custom] := rfl
    refine run_eq_of_replaces literal written literalOther writtenOther split (by decide)
      (words_replaces listed allowed disallowed) ?_
    simpa using custom_runsAlike off offOther
  | length off offOther unlisted unlistedOther bounded minLength maxLength opens closes
      disallowed =>
    have split : Stage.all = [.characterClass, .lookarounds, .repetitions] ++
        Stage.lengthBounds :: [.ends, .words, .custom] := rfl
    refine run_eq_of_replaces literal written literalOther writtenOther split (by decide)
      (lengthBounds_replaces bounded minLength maxLength) ?_
    have allowed : config.list .allowedWords = other.list .allowedWords := by
      rw [unlisted, unlistedOther]
    simpa using ⟨ends_runsAlike opens closes, words_runsAlike allowed disallowed,
      custom_runsAlike off offOther⟩
  | count counted scalars lists =>
    exact runStages_congr (fun stage _ => runsAlike_of_count counted scalars lists stage) _

/-- Without a shape, configurations that agree on what is left have the same pattern, or both have a
bound that cannot be written. -/
theorem build_eq_of_leavesAlike (unshaped : Shape.select? config = none)
    (unshapedOther : Shape.select? other = none) (literal : config.IsLiteral)
    (literalOther : other.IsLiteral) (written : config.IsWritten ↔ other.IsWritten)
    (alike : config.LeavesAlike other) : build config = build other := by
  by_cases both : config.IsWritten
  · rw [build, build, unshaped, unshapedOther,
      run_eq_of_leavesAlike literal both literalOther (written.mp both) alike]
  · rw [build_of_not_isWritten unshaped literal both,
      build_of_not_isWritten unshapedOther literalOther (mt written.mpr both)]

end Pipeline

end Patternwright
