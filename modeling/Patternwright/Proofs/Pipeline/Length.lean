import Patternwright.Proofs.Pipeline.Containment
import Patternwright.Proofs.Pipeline.Repetition

/-!
# Bounds of the length

Bounds of the length take the place of what the stages before them have made, so switches,
conditions and repetitions make no difference beside them, as long as the number of repetitions has
not too many digits to be written before it is thrown away. What the bounds put there is tied to
both ends of a line: as many characters as they allow, each accepted by the dot.

On a single line these inner anchors say more than the outer ones. Nothing can come before the
counted characters, so the lead that disallowed words bring with them is empty, and only a line
break can come behind them. A line break at the end of the text is therefore not counted, and a text
may be longer than the upper bound by that one character.

The ends are written outside of the inner anchors. There is no room for them: with a beginning, or
with an ending other than a line break, no text is accepted at all, whatever the bounds are.

## Main definitions

* `Config.HasLength` — the bounds of the length
* `Pipeline.dotLaw` — what is counted

## Main results

* `Pipeline.accepts_iff_bounded` — the accepted texts for any bounds and ends
* `Pipeline.accepts_iff_length` — without ends, a text is accepted for its length
* `Pipeline.not_compiles_length` — repetitions with too many digits are an error all the same
* `Pipeline.not_accepts_of_ends` — with ends, no text is accepted
-/

namespace Patternwright

open Regex

/-- The bounds of the length: a lower one, which is zero if it is not given, and an upper one if it
is given. One of them is. -/
structure Config.HasLength (config : Config) (low : Nat) (high : Option Nat) : Prop where
  low : config.scalar .minLength = .int low ∨ config.scalar .minLength = .null ∧ low = 0
  high : config.scalar .maxLength = high.elim .null fun limit => .int limit
  given : config.scalar .minLength ≠ .null ∨ config.scalar .maxLength ≠ .null

namespace Pipeline

/-- One character that the dot accepts. -/
def dotLaw (config : Config) : Law := fun _ word =>
  ∃ c, word = [c] ∧ CharTest.any.accepts (optionsOf config) c = true

/-- Repeated dots are characters that the dot accepts. -/
theorem times_dotLaw_iff {config : Config} {bounds : Bounds} {s : State} {word : List Char} :
    (dotLaw config).times bounds s word ↔ bounds.least ≤ word.length ∧
      (∀ limit, bounds.most = some limit → word.length ≤ limit) ∧ IsDotted config word := by
  rw [Law.times, IsDotted]
  refine exists_chars_iff.trans ?_
  simp [CharTest.accepts, MatchOptions.ofConfig, MatchOptions.toOptions, Config.isOn]

/-- Without repetitions, only the bounds of the length have to be integers or truth values. -/
theorem hasBounds_withoutRepetitions {config : Config}
    (minLength : Config.IsBound (config.scalar .minLength))
    (maxLength : Config.IsBound (config.scalar .maxLength)) :
    (config.withRepetitions .none).HasBounds :=
  ⟨minLength, maxLength, .inl rfl, fun _ => .inl rfl, fun _ => .inl rfl⟩

/-- Of nothing or a line break, both parts are nothing or a line break. -/
theorem parts_of_final {first second : List Char}
    (ends : first ++ second = [] ∨ first ++ second = ['\n']) :
    (first = [] ∨ first = ['\n']) ∧ (second = [] ∨ second = ['\n']) := by
  rcases ends with nothing | broken
  · obtain ⟨rfl, rfl⟩ := List.append_eq_nil_iff.mp nothing
    exact ⟨.inl rfl, .inl rfl⟩
  · rcases List.append_eq_singleton_iff.mp broken with ⟨rfl, rfl⟩ | ⟨rfl, rfl⟩
    · exact ⟨.inl rfl, .inr rfl⟩
    · exact ⟨.inr rfl, .inl rfl⟩

section Bounded

variable {config : Config} {inner : List Char} (given : lengthInner? config = some inner)

include given

/-- Bounds of the length leave repeated dots, from the start of a line to the end of one. -/
theorem lengthLaw_iff {law : Law} {s : State} {word : List Char} :
    lengthLaw config law s word ↔ StartsLine (optionsOf config) s.before.reverse ∧
      (dotLaw config).counted (optionsOf config) inner s word ∧
      EndsLine (optionsOf config) (s.advance word.length).after := by
  simp only [lengthLaw, given, Law.then, holds_lineStart_iff, holds_lineEnd_iff]
  constructor
  · rintro ⟨_, _, rfl, ⟨rfl, starts⟩, body, _, rfl, counted, rfl, ends⟩
    rw [List.length_nil, State.advance_zero] at counted ends
    rw [List.append_nil]
    exact ⟨starts, counted, by simpa using ends⟩
  · rintro ⟨starts, counted, ends⟩
    exact ⟨[], word, rfl, ⟨rfl, starts⟩, word, [], by simp, counted, rfl,
      by simpa using ends⟩

variable (unlisted : config.list .allowedWords = [])

include unlisted

/-- On a single line, nothing comes before what the bounds count, and no more than a line break
behind it. -/
theorem law_iff_of_bounded (singleLine : config.isOn .multiLine = false)
    {word final : List Char} :
    law config (.fresh [] (word ++ final) 1) word ↔ ∃ body ending, word = body ++ ending ∧
      (config.scalar .opening).chars = [] ∧
      (dotLaw config).counted (optionsOf config) inner (.fresh [] (word ++ final) 1) body ∧
      Spells (optionsOf config) (config.scalar .closing).chars ending ∧
      (ending ++ final = [] ∨ ending ++ final = ['\n']) ∧
      ∀ other ∈ config.words .disallowedWords, ¬ Finds config other (word ++ final) := by
  have single : (optionsOf config).multiLine = false := singleLine
  have none' : config.words .allowedWords = [] := Config.words_eq_nil_iff.mpr unlisted
  rw [law, wordsLaw, allowedLaw, none']
  simp only [Law.then, endsLaw, lengthLaw_iff given, startsLine_iff single, endsLine_iff single]
  constructor
  · rintro ⟨lead, _, rfl, ⟨dotted, tied, clear⟩, _, ending, rfl, ⟨opening, body, rfl, opens, before,
      counted, ends⟩, closes⟩
    -- The inner start of a line is the start of the text, so there is no lead and no beginning.
    have split : (State.fresh [] (lead ++ (opening ++ body ++ ending) ++ final) 1).after =
        lead ++ (opening ++ (body ++ (ending ++ final))) := by simp [State.fresh]
    have start := State.advance_before (State.advance_after split)
    rw [State.advance_before split] at start
    rw [start] at before
    obtain ⟨rfl, rfl⟩ : lead = [] ∧ opening = [] := by simpa [State.fresh] using before
    have bare : (config.scalar .opening).chars = [] := List.forall₂_nil_right_iff.mp opens
    simp only [List.nil_append, List.length_nil, State.advance_zero] at split counted ends clear ⊢
    rw [State.advance_after split] at ends
    exact ⟨body, ending, rfl, bare, counted, closes, ends, clear⟩
  · rintro ⟨body, ending, rfl, bare, counted, closes, ends, clear⟩
    have split : (State.fresh [] (body ++ ending ++ final) 1).after =
        body ++ (ending ++ final) := by simp [State.fresh]
    have opens : Spells (optionsOf config) (config.scalar .opening).chars [] := by
      rw [bare]
      exact .nil
    refine ⟨[], _, rfl, ⟨by simp [IsDotted], fun _ => rfl, clear⟩, body, ending, rfl,
      ⟨[], body, rfl, opens, rfl, ?_, ?_⟩, closes⟩
    · simpa using counted
    · simp only [List.length_nil, State.advance_zero, State.advance_after split]
      exact ends

variable (general : config.IsGeneral) (minLength : Config.IsBound (config.scalar .minLength))
  (maxLength : Config.IsBound (config.scalar .maxLength))

include general minLength maxLength

/-- The braces for the length are the only ones that could be at fault. -/
theorem exists_ofConfig_of_bounded (written : config.IsWritten) {bounds? : Option Bounds}
    (asked : asked? inner = .ok bounds?) : ∃ matcher, Matcher.ofConfig config = .ok matcher := by
  rw [ofConfig_withoutRepetitions general (by simp [given]) written]
  refine exists_ofConfig_eq (general.withRepetitions .none)
    (hasBounds_withoutRepetitions minLength maxLength) ⟨rfl, written.length⟩ ?_
  have noAllowed : (config.withRepetitions .none).words .allowedWords = [] :=
    Config.words_eq_nil_iff.mpr unlisted
  have active : activeInner? (config.withRepetitions .none) = some inner := by
    rw [activeInner?, if_pos noAllowed]
    exact Option.or_eq_some_iff.mpr (.inl given)
  simp [active, innerFault?, asked]

/-- The accepted texts on a single line: characters that the bounds count, the ending, and at most
one line break that may be part of the ending. -/
theorem accepts_iff_bounded (singleLine : config.isOn .multiLine = false) {matcher : Matcher}
    (compiled : Matcher.ofConfig config = .ok matcher) (text : String) :
    matcher.accepts text = true ↔ ∃ body ending final,
      text.toList = body ++ (ending ++ final) ∧ (config.scalar .opening).chars = [] ∧
      (dotLaw config).counted (optionsOf config) inner (.fresh [] text.toList 1) body ∧
      Spells (optionsOf config) (config.scalar .closing).chars ending ∧
      (ending ++ final = [] ∨ ending ++ final = ['\n']) ∧
      ∀ other ∈ config.words .disallowedWords, ¬ Finds config other text.toList := by
  -- Repetitions are overridden, so the law of a configuration without them will do.
  rw [ofConfig_withoutRepetitions general (by simp [given])
    (isWritten_of_ofConfig general.unshaped compiled)] at compiled
  have single : (optionsOf (config.withRepetitions .none)).multiLine = false := singleLine
  have allows (word final : List Char) :=
    @law_iff_of_bounded (config.withRepetitions .none) inner given unlisted singleLine word final
  rw [accepts_iff_law (general.withRepetitions .none)
    (hasBounds_withoutRepetitions minLength maxLength) compiled]
  constructor
  · rintro ⟨_, word, final, split, starts, -, allowed⟩
    obtain rfl := (startsLine_iff single).mp starts
    obtain ⟨body, ending, rfl, bare, counted, closes, ends, clear⟩ := (allows word final).mp allowed
    rw [List.nil_append] at split
    rw [← split] at counted clear
    exact ⟨body, ending, final, by simpa using split, bare, counted, closes, ends, clear⟩
  · rintro ⟨body, ending, final, split, bare, counted, closes, ends, clear⟩
    rw [← List.append_assoc] at split
    rw [split] at counted clear
    exact ⟨[], body ++ ending, final, split, (startsLine_iff single).mpr rfl,
      (endsLine_iff single).mpr (parts_of_final ends).2, (allows _ final).mpr
        ⟨body, ending, rfl, bare, counted, closes, ends, clear⟩⟩

end Bounded

/-! ### Lengths -/

theorem lengthInner?_eq_of_hasLength {config : Config} {low : Nat} {high : Option Nat}
    (length : config.HasLength low high) :
    lengthInner? config = some (Braces.between low (high.map Int.ofNat)).body := by
  obtain ⟨least, most, given⟩ := length
  rw [most] at given
  rw [lengthInner?, most]
  rcases least with least | ⟨absent, rfl⟩
  · rw [least]
    cases high <;> rfl
  · -- A lower bound that is not given is written as zero.
    rw [absent] at given ⊢
    cases high with
    | none => simp at given
    | some limit => rfl

/-- The accepted texts are told by their length: as many characters as the bounds allow, all of them
accepted by the dot, and at most one line break behind them. -/
theorem accepts_iff_length {config : Config} (general : config.IsGeneral)
    (written : config.IsWritten) (unlisted : config.list .allowedWords = [])
    (noOpening : (config.scalar .opening).chars = [])
    (noClosing : (config.scalar .closing).chars = [])
    (singleLine : config.isOn .multiLine = false)
    (cased : config.isOn .caseInsensitive = true → config.list .disallowedWords = [])
    {low : Nat} {high : Option Nat} (length : config.HasLength low high)
    (lowFits : low < countLimit)
    (highFits : ∀ limit, high = some limit → low ≤ limit ∧ limit < countLimit) :
    ∃ matcher, Matcher.ofConfig config = .ok matcher ∧ ∀ text : String,
      matcher.accepts text = true ↔ ∃ word final, text.toList = word ++ final ∧
        (final = [] ∨ final = ['\n']) ∧ low ≤ word.length ∧
        (∀ limit, high = some limit → word.length ≤ limit) ∧ IsDotted config word ∧
        ∀ other ∈ config.words .disallowedWords, ¬ Occurs config other text.toList := by
  have given := lengthInner?_eq_of_hasLength length
  have asked := Braces.asked?_between_usable high lowFits highFits
  have minLength : Config.IsBound (config.scalar .minLength) :=
    length.low.elim (fun least => .inr (.inl ⟨low, least⟩)) fun absent => .inl absent.1
  have maxLength : Config.IsBound (config.scalar .maxLength) := by
    rw [length.high]
    cases high with
    | none => exact .inl rfl
    | some limit => exact .inr (.inl ⟨limit, rfl⟩)
  obtain ⟨matcher, compiled⟩ := exists_ofConfig_of_bounded given unlisted general minLength
    maxLength written asked
  refine ⟨matcher, compiled, fun text => ?_⟩
  rw [accepts_iff_bounded given unlisted general minLength maxLength singleLine compiled]
  have clear : (∀ other ∈ config.words .disallowedWords, ¬ Finds config other text.toList) ↔
      ∀ other ∈ config.words .disallowedWords, ¬ Occurs config other text.toList := by
    cases folds : config.isOn .caseInsensitive with
    | false => simp only [finds_iff_occurs folds]
    | true => simp [Config.words_eq_nil_iff.mpr (cased folds)]
  simp only [Law.counted, asked, times_dotLaw_iff, clear, noOpening, noClosing]
  constructor
  · rintro ⟨word, _, final, split, -, ⟨enough, few, dotted⟩, _ | _, ends, clear⟩
    exact ⟨word, final, split, ends, enough, few, dotted, clear⟩
  · rintro ⟨word, final, split, ends, enough, few, dotted, clear⟩
    exact ⟨word, [], final, split, trivial, ⟨enough, few, dotted⟩, .nil, ends, clear⟩

/-- Two or three characters. The switch, the word to ask for and the repetitions make no difference,
but the word that is not allowed and the beginning do. -/
def measured (opening : String) : Config :=
  ((((((Config.default.setScalar .digits (.bool true)).setScalar .exactRepetitions
    (.int 7)).setScalar .minLength (.int 2)).setScalar .maxLength (.int 3)).setScalar .opening
    (.text opening)).setList .mustContain [.text "x"]).setList .disallowedWords [.text "y"]

theorem isGeneral_measured (opening : String) : (measured opening).IsGeneral where
  unshaped := rfl
  custom := rfl
  opening := .inr ⟨opening, rfl⟩
  closing := .inl rfl
  words field _ word member := by
    cases field with
    | mustContain => exact ⟨"x", List.mem_singleton.mp member⟩
    | disallowedWords => exact ⟨"y", List.mem_singleton.mp member⟩
    | _ => exact (List.not_mem_nil member).elim

theorem hasLength_measured (opening : String) : (measured opening).HasLength 2 (some 3) :=
  ⟨.inl rfl, rfl, .inl Value.noConfusion⟩

theorem isWritten_measured (opening : String) : (measured opening).IsWritten := ⟨rfl, rfl⟩

theorem accepts_iff_length_measured : (measured "").IsGeneral ∧ (measured "").IsWritten ∧
    (measured "").list .allowedWords = [] ∧ ((measured "").scalar .opening).chars = [] ∧
    ((measured "").scalar .closing).chars = [] ∧ (measured "").isOn .multiLine = false ∧
    (measured "").isOn .caseInsensitive = false ∧ (measured "").HasLength 2 (some 3) ∧
    (2 < countLimit ∧ 2 ≤ 3 ∧ 3 < countLimit) ∧
    ∃ matcher, Matcher.ofConfig (measured "") = .ok matcher ∧ ∀ text : String,
      matcher.accepts text = true ↔ ∃ word final, text.toList = word ++ final ∧
        (final = [] ∨ final = ['\n']) ∧ 2 ≤ word.length ∧
        (∀ limit, some 3 = some limit → word.length ≤ limit) ∧ IsDotted (measured "") word ∧
        ∀ other ∈ (measured "").words .disallowedWords,
          ¬ Occurs (measured "") other text.toList :=
  ⟨isGeneral_measured "", isWritten_measured "", rfl, rfl, rfl, rfl, rfl, hasLength_measured "",
    by decide,
    accepts_iff_length (isGeneral_measured "") (isWritten_measured "") rfl rfl rfl rfl
      (absurd · Bool.false_ne_true) (hasLength_measured "") (by decide) (by simp [countLimit])⟩

/-- The same lengths beside a number of repetitions that has too many digits. -/
def overlong : Config := (measured "").setScalar .exactRepetitions (.int Numeral.beyond)

theorem not_isWritten_overlong : ¬ overlong.IsWritten := fun written =>
  absurd written.repetitions (by
    simp [overlong, measured, Config.repetitionBounds, Config.setScalar, Config.setList,
      Value.isWritable, Numeral.isWritable_beyond])

theorem isGeneral_overlong : overlong.IsGeneral := { isGeneral_measured "" with }

/-- Repetitions that the bounds of the length override make a difference if their number cannot be
written. -/
theorem not_compiles_length :
    ¬ ∀ (config : Config) (low : Nat) (high : Option Nat), config.IsGeneral →
      config.list .allowedWords = [] → (config.scalar .opening).chars = [] →
      (config.scalar .closing).chars = [] → config.isOn .multiLine = false →
      (config.isOn .caseInsensitive = true → config.list .disallowedWords = []) →
      config.HasLength low high → low < countLimit →
      (∀ limit, high = some limit → low ≤ limit ∧ limit < countLimit) →
      ∃ matcher, Matcher.ofConfig config = .ok matcher := by
  intro all
  obtain ⟨matcher, compiled⟩ := all overlong 2 (some 3) isGeneral_overlong rfl rfl rfl rfl
    (absurd · Bool.false_ne_true) ⟨.inl rfl, rfl, .inl Value.noConfusion⟩ (by decide)
    (by simp [countLimit])
  cases (ofConfig_of_not_isWritten isGeneral_overlong not_isWritten_overlong).symm.trans compiled

/-! ### Ends beside lengths -/

/-- With a beginning, or with an ending that is more than a line break, no text has a length that
fits: the bounds count from the start of the text to its end. -/
theorem not_accepts_of_ends {config : Config} (unshaped : Shape.select? config = none)
    (custom : config.scalar .custom = .text "") (unlisted : config.list .allowedWords = [])
    (singleLine : config.isOn .multiLine = false)
    (minLength : Config.IsBound (config.scalar .minLength))
    (maxLength : Config.IsBound (config.scalar .maxLength))
    (bounded : config.scalar .minLength ≠ .null ∨ config.scalar .maxLength ≠ .null)
    (ended : (config.scalar .opening).chars ≠ [] ∨
      (config.scalar .closing).chars ≠ [] ∧ (config.scalar .closing).chars ≠ ['\n'])
    {matcher : Matcher} (compiled : Matcher.ofConfig config = .ok matcher) (text : String) :
    matcher.accepts text = false := by
  have general : config.IsGeneral := by
    obtain ⟨built, succeeds, -⟩ := bind_eq_ok_iff.mp compiled
    exact ⟨isLiteral_of_build unshaped succeeds, unshaped, custom⟩
  obtain ⟨inner, given⟩ : ∃ inner, lengthInner? config = some inner := by
    rw [← Option.ne_none_iff_exists', Ne, lengthInner?, rangeInner?_eq_none]
    intro unbounded
    exact bounded.elim (· unbounded.1) (· unbounded.2)
  rw [Bool.eq_false_iff]
  intro accepted
  obtain ⟨body, ending, final, -, bare, -, closes, ends, -⟩ := (accepts_iff_bounded given unlisted
    general minLength maxLength singleLine compiled text).mp accepted
  rcases ended with opened | ⟨some', other⟩
  · exact opened bare
  · -- All of the ending comes behind the end of the line, so it is nothing or a line break.
    rcases (parts_of_final ends).1 with rfl | rfl
    · exact some' (List.forall₂_nil_right_iff.mp closes)
    · exact other (spells_lineBreak_iff.mp closes)

theorem not_accepts_of_ends_measured : Shape.select? (measured "a") = none ∧
    (measured "a").scalar .custom = .text "" ∧ (measured "a").list .allowedWords = [] ∧
    (measured "a").isOn .multiLine = false ∧
    (Config.IsBound ((measured "a").scalar .minLength) ∧
      Config.IsBound ((measured "a").scalar .maxLength)) ∧
    (measured "a").scalar .minLength ≠ .null ∧ ((measured "a").scalar .opening).chars ≠ [] ∧
    ∃ matcher, Matcher.ofConfig (measured "a") = .ok matcher ∧
      ∀ text, matcher.accepts text = false := by
  have minLength : Config.IsBound ((measured "a").scalar .minLength) := .inr (.inl ⟨2, rfl⟩)
  have maxLength : Config.IsBound ((measured "a").scalar .maxLength) := .inr (.inl ⟨3, rfl⟩)
  have bounded : (measured "a").scalar .minLength ≠ .null := Value.noConfusion
  have opened : ((measured "a").scalar .opening).chars ≠ [] := List.cons_ne_nil _ _
  have asked := Braces.asked?_between_usable (some 3) (by decide : 2 < countLimit) (by decide)
  obtain ⟨matcher, compiled⟩ := exists_ofConfig_of_bounded
    (lengthInner?_eq_of_hasLength (hasLength_measured "a")) rfl (isGeneral_measured "a") minLength
    maxLength (isWritten_measured "a") asked
  exact ⟨rfl, rfl, rfl, rfl, ⟨minLength, maxLength⟩, bounded, opened, matcher, compiled, fun text =>
    not_accepts_of_ends rfl rfl rfl rfl minLength maxLength (.inl bounded) (.inl opened) compiled
      text⟩

end Pipeline

end Patternwright
