import Patternwright.Proofs.Pipeline.Containment
import Patternwright.Proofs.Pipeline.Override

/-!
# Allowed words

A list of allowed words takes the place of all that the stages before it have made: switches,
conditions, bounds and ends make no difference beside it. No bounds can be at fault, but all of them
have to be written before they are thrown away, so they must not have too many digits. The words
are all that is left, as they are written, and one of them has to go from the start of a line to the
end of one.

Words that are not allowed change more than they say. They are looked for from the start of the line
on, as far as the dot reaches, and the lead that comes with them is allowed before the word. So one
disallowed word lets all texts in that end in an allowed word, as long as the dot accepts what comes
before it.

## Main results

* `Pipeline.accepts_iff_lead_allowed` — a lead and an allowed word, from the start of a line to the
  end of one
* `Pipeline.accepts_iff_allowed` — what this comes to, with lines and disallowed words or without
* `Pipeline.not_compiles_allowed` — a bound with too many digits is an error all the same
-/

namespace Patternwright

open Regex

namespace Pipeline

section Allowed

variable {config : Config} (listed : config.list .allowedWords ≠ [])

include listed

/-- Beside allowed words no braces are left that could be at fault. -/
theorem exists_ofConfig_of_allowed (general : config.IsGeneral) (bounds : config.HasBounds)
    (written : config.IsWritten) : ∃ matcher, Matcher.ofConfig config = .ok matcher := by
  refine exists_ofConfig_eq general bounds written ?_
  rw [activeInner?, if_neg (mt Config.words_eq_nil_iff.mp listed)]
  rfl

variable (cased : config.isOn .caseInsensitive = false)

include cased

/-- With allowed words, nothing is left of the stages before them. -/
theorem law_iff_of_allowed {s : State} {text : List Char} :
    law config s text ↔ ∃ lead, ∃ word ∈ config.words .allowedWords, text = lead ++ word ∧
      IsDotted config lead ∧ (config.words .disallowedWords = [] → lead = []) ∧
        ∀ other ∈ config.words .disallowedWords, ¬ Occurs config other s.after := by
  have plain : (optionsOf config).ignoreCase = false := cased
  rw [law, wordsLaw, allowedLaw_of_ne_nil (mt Config.words_eq_nil_iff.mp listed)]
  simp only [Law.then, leadLaw_iff cased, anyWordLaw, spells_iff_eq plain]
  constructor
  · rintro ⟨lead, word, rfl, allowed, _, member, rfl⟩
    exact ⟨lead, word, member, rfl, allowed⟩
  · rintro ⟨lead, word, member, rfl, allowed⟩
    exact ⟨lead, word, rfl, allowed, word, member, rfl⟩

/-- The accepted texts have a lead and an allowed word, from the start of a line to the end of
one. -/
theorem accepts_iff_lead_allowed (general : config.IsGeneral) (bounds : config.HasBounds)
    {matcher : Matcher} (compiled : Matcher.ofConfig config = .ok matcher) (text : String) :
    matcher.accepts text = true ↔
      ∃ earlier lead, ∃ word ∈ config.words .allowedWords, ∃ later,
        text.toList = earlier ++ (lead ++ (word ++ later)) ∧
          StartsLine (optionsOf config) earlier ∧ EndsLine (optionsOf config) later ∧
          IsDotted config lead ∧ (config.words .disallowedWords = [] → lead = []) ∧
          ∀ other ∈ config.words .disallowedWords,
            ¬ Occurs config other (lead ++ (word ++ later)) := by
  rw [accepts_iff_law general bounds compiled]
  simp only [law_iff_of_allowed listed cased]
  constructor
  · rintro ⟨earlier, _, later, split, starts, ends, lead, word, member, rfl, dotted, tied, clear⟩
    rw [List.append_assoc] at split
    exact ⟨earlier, lead, word, member, later, split, starts, ends, dotted, tied,
      fun other given => by simpa [State.fresh] using clear other given⟩
  · rintro ⟨earlier, lead, word, member, later, split, starts, ends, dotted, tied, clear⟩
    refine ⟨earlier, lead ++ word, later, by rw [split, List.append_assoc], starts, ends, lead,
      word, member, rfl, dotted, tied, fun other given => ?_⟩
    simpa [State.fresh] using clear other given

end Allowed

/-- Which texts are accepted with a list of allowed words. On a single line these are the words, or,
with disallowed words, the texts that have none of them within reach of the dot and end in an
allowed word behind characters that the dot accepts; a line break may come behind. With many lines
and no disallowed word, these are the texts with a word from the start of a line to the end of
one. -/
theorem accepts_iff_allowed {config : Config} (general : config.IsGeneral)
    (bounds : config.HasBounds) (written : config.IsWritten)
    (cased : config.isOn .caseInsensitive = false)
    (listed : config.list .allowedWords ≠ []) :
    ∃ matcher, Matcher.ofConfig config = .ok matcher ∧ ∀ text : String,
      (config.isOn .multiLine = false → config.list .disallowedWords = [] →
        (matcher.accepts text = true ↔ ∃ word ∈ config.words .allowedWords,
          text.toList = word ∨ text.toList = word ++ ['\n'])) ∧
      (config.isOn .multiLine = false → config.list .disallowedWords ≠ [] →
        (matcher.accepts text = true ↔
          (∀ other ∈ config.words .disallowedWords, ¬ Occurs config other text.toList) ∧
          ∃ word ∈ config.words .allowedWords, ∃ lead, IsDotted config lead ∧
            (text.toList = lead ++ word ∨ text.toList = lead ++ word ++ ['\n']))) ∧
      (config.isOn .multiLine = true → config.list .disallowedWords = [] →
        (matcher.accepts text = true ↔ ∃ word ∈ config.words .allowedWords, ∃ before after,
          text.toList = before ++ (word ++ after) ∧
            (before = [] ∨ before.getLast? = some '\n') ∧
            (after = [] ∨ after.head? = some '\n'))) := by
  obtain ⟨matcher, compiled⟩ := exists_ofConfig_of_allowed listed general bounds written
  refine ⟨matcher, compiled, fun text => ?_⟩
  rw [accepts_iff_lead_allowed listed cased general bounds compiled text]
  refine ⟨fun singleLine unlisted => ?_, fun singleLine given => ?_, fun manyLines unlisted => ?_⟩
  · -- There is no lead, and the word begins where the text does.
    have single : (optionsOf config).multiLine = false := singleLine
    simp only [← exists_final_iff, startsLine_iff single, endsLine_iff single,
      Config.words_eq_nil_iff.mpr unlisted]
    constructor
    · rintro ⟨_, _, word, member, final, split, rfl, ended, -, tied, -⟩
      obtain rfl := tied trivial
      exact ⟨word, member, final, split, ended⟩
    · rintro ⟨word, member, final, split, ended⟩
      exact ⟨[], [], word, member, final, split, rfl, ended, by simp [IsDotted], fun _ => rfl,
        by simp⟩
  · -- The lead begins where the text does, so the other words are looked for in all of it.
    have single : (optionsOf config).multiLine = false := singleLine
    have some' : config.words .disallowedWords ≠ [] := mt Config.words_eq_nil_iff.mp given
    simp only [← exists_final_iff, startsLine_iff single, endsLine_iff single]
    constructor
    · rintro ⟨_, lead, word, member, final, split, rfl, ended, dotted, -, clear⟩
      rw [List.nil_append, ← List.append_assoc] at split
      rw [← List.append_assoc, ← split] at clear
      exact ⟨clear, word, member, lead, dotted, final, split, ended⟩
    · rintro ⟨clear, word, member, lead, dotted, final, split, ended⟩
      rw [split, List.append_assoc] at clear
      exact ⟨[], lead, word, member, final, by simpa using split, rfl, ended, dotted,
        (absurd · some'), clear⟩
  · -- Only the characters next to the word count, for there is no lead.
    have many : (optionsOf config).multiLine = true := manyLines
    simp only [startsLine_iff_of_multiLine many, endsLine_iff_of_multiLine many,
      Config.words_eq_nil_iff.mpr unlisted]
    constructor
    · rintro ⟨before, _, word, member, after, split, starts, ends, -, tied, -⟩
      obtain rfl := tied trivial
      exact ⟨word, member, before, after, split, starts, ends⟩
    · rintro ⟨word, member, before, after, split, starts, ends⟩
      exact ⟨before, [], word, member, after, split, starts, ends, by simp [IsDotted],
        fun _ => rfl, by simp⟩

/-- Two words that are allowed, one of them longer than the other, and some that are not. -/
def allowing (manyLines : Bool) (others : List String) : Config :=
  ((Config.default.setScalar .multiLine (.bool manyLines)).setList .allowedWords
    [.text "x", .text "x."]).setList .disallowedWords (others.map .text)

theorem isGeneral_allowing (manyLines : Bool) (others : List String) :
    (allowing manyLines others).IsGeneral where
  unshaped := rfl
  custom := rfl
  opening := .inl rfl
  closing := .inl rfl
  words field _ word member := by
    cases field with
    | allowedWords =>
      rcases List.mem_cons.mp member with rfl | member
      · exact ⟨"x", rfl⟩
      · exact ⟨"x.", List.mem_singleton.mp member⟩
    | disallowedWords =>
      obtain ⟨s, -, rfl⟩ := List.mem_map.mp member
      exact ⟨s, rfl⟩
    | _ => exact (List.not_mem_nil member).elim

theorem hasBounds_allowing (manyLines : Bool) (others : List String) :
    (allowing manyLines others).HasBounds :=
  ⟨.inl rfl, .inl rfl, .inl rfl, fun _ => .inl rfl, fun _ => .inl rfl⟩

theorem isWritten_allowing (manyLines : Bool) (others : List String) :
    (allowing manyLines others).IsWritten := ⟨rfl, rfl⟩

theorem accepts_iff_allowed_allowing :
    (∀ manyLines others, (allowing manyLines others).IsGeneral ∧
      (allowing manyLines others).HasBounds ∧ (allowing manyLines others).IsWritten ∧
      (allowing manyLines others).isOn .caseInsensitive = false ∧
      (allowing manyLines others).list .allowedWords ≠ []) ∧
    (∃ matcher, Matcher.ofConfig (allowing false []) = .ok matcher ∧ ∀ text : String,
      (matcher.accepts text = true ↔ ∃ word ∈ [['x'], ['x', '.']],
        text.toList = word ∨ text.toList = word ++ ['\n'])) ∧
    (∃ matcher, Matcher.ofConfig (allowing false ["y"]) = .ok matcher ∧ ∀ text : String,
      (matcher.accepts text = true ↔
        (∀ other ∈ [['y']], ¬ Occurs (allowing false ["y"]) other text.toList) ∧
        ∃ word ∈ [['x'], ['x', '.']], ∃ lead, IsDotted (allowing false ["y"]) lead ∧
          (text.toList = lead ++ word ∨ text.toList = lead ++ word ++ ['\n']))) ∧
    ∃ matcher, Matcher.ofConfig (allowing true []) = .ok matcher ∧ ∀ text : String,
      (matcher.accepts text = true ↔ ∃ word ∈ [['x'], ['x', '.']], ∃ before after,
        text.toList = before ++ (word ++ after) ∧
          (before = [] ∨ before.getLast? = some '\n') ∧
          (after = [] ∨ after.head? = some '\n')) := by
  have allowed (manyLines : Bool) (others : List String) :=
    accepts_iff_allowed (isGeneral_allowing manyLines others) (hasBounds_allowing manyLines others)
      (isWritten_allowing manyLines others) rfl (List.cons_ne_nil _ _)
  obtain ⟨first, compiledFirst, acceptedFirst⟩ := allowed false []
  obtain ⟨second, compiledSecond, acceptedSecond⟩ := allowed false ["y"]
  obtain ⟨third, compiledThird, acceptedThird⟩ := allowed true []
  refine ⟨fun manyLines others => ⟨isGeneral_allowing manyLines others,
    hasBounds_allowing manyLines others, isWritten_allowing manyLines others, rfl,
    List.cons_ne_nil _ _⟩,
    ⟨first, compiledFirst, fun text => (acceptedFirst text).1 rfl rfl⟩,
    ⟨second, compiledSecond, fun text => (acceptedSecond text).2.1 rfl (List.cons_ne_nil _ _)⟩,
    third, compiledThird, fun text => (acceptedThird text).2.2 rfl rfl⟩

/-- Beside allowed words there need not be a matcher: a bound that they throw away is written all
the same, and may have too many digits for that. -/
theorem not_compiles_allowed :
    ¬ ∀ config : Config, config.IsGeneral → config.HasBounds →
      config.isOn .caseInsensitive = false → config.list .allowedWords ≠ [] →
      ∃ matcher, Matcher.ofConfig config = .ok matcher := by
  intro all
  have general : ((allowing false []).setScalar .minLength (.int Numeral.beyond)).IsGeneral :=
    { isGeneral_allowing false [] with }
  have bounds : ((allowing false []).setScalar .minLength (.int Numeral.beyond)).HasBounds :=
    { hasBounds_allowing false [] with minLength := .inr (.inl ⟨_, rfl⟩) }
  have unwritten : ¬ ((allowing false []).setScalar .minLength (.int Numeral.beyond)).IsWritten :=
    fun written => absurd written.length (by
      simp [Config.lengthBounds, Config.setScalar, Value.isWritable, Numeral.isWritable_beyond])
  obtain ⟨matcher, compiled⟩ := all _ general bounds rfl (List.cons_ne_nil _ _)
  cases (ofConfig_of_not_isWritten general unwritten).symm.trans compiled

end Pipeline

end Patternwright
