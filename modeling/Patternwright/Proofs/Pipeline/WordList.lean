import Patternwright.Proofs.Pipeline.Law
import Patternwright.Proofs.Pipeline.Override

/-!
# Word lists

A list of words says which words there are, and nothing else: their order and their number make no
difference to the accepted texts, although each of them is a part of the pattern in its place.

With more words to ask for or to keep out, fewer texts are accepted, and with more words that are
allowed, more. A list that is empty is another matter: the first word of a list of allowed words
takes the place of all else, and the first disallowed word brings a lead with it. So these two lists
have to be there before.

Both follow from one comparison. A configuration is *tighter* than another one if its lists ask for
more and allow less; then it is refused for the same cause, and its law is below the other one's.

## Main definitions

* `Config.IsTighter` — a configuration asks for more and allows less
* `Config.SameWords` — two configurations have the same words in their lists
* `Config.addWord` — a configuration with one more word in a list

## Main results

* `Pipeline.law_le_of_isTighter` — a tighter configuration has a law below the other one's
* `Pipeline.agree_of_sameWords` — configurations with the same words come to the same
* `Pipeline.accepts_addWord` — one more word moves the accepted texts one way
-/

namespace Patternwright

open Regex

/-- Two errors say the same, but for the pattern that they are about and the place in it. -/
def Error.IsAlike : Error → Error → Prop
  | .pattern _ fault, .pattern _ other => fault.cause = other.cause
  | error, other => error = other

namespace Config

/-- A configuration asks for all that another one asks for, keeps out all that the other one keeps
out, and allows no other words. The lists whose first word makes a difference are there in both or
in neither. -/
structure IsTighter (tight config : Config) : Prop where
  scalars : tight.scalar = config.scalar
  mustContain : config.words .mustContain ⊆ tight.words .mustContain
  mustNotContain : config.words .mustNotContain ⊆ tight.words .mustNotContain
  disallowed : config.words .disallowedWords ⊆ tight.words .disallowedWords
  allowed : tight.words .allowedWords ⊆ config.words .allowedWords
  noneDisallowed : config.words .disallowedWords = [] → tight.words .disallowedWords = []
  someAllowed : config.words .allowedWords ≠ [] → tight.words .allowedWords ≠ []

/-- Two configurations differ in the order and the number of words in their lists at most. -/
structure SameWords (config other : Config) : Prop where
  scalars : config.scalar = other.scalar
  lists : ∀ field, field ≠ .cardBrands → ∀ word, word ∈ config.list field ↔ word ∈ other.list field

/-- The configuration with one more word at the end of a list. -/
def addWord (config : Config) (field : ListField) (word : String) : Config :=
  config.setList field (config.list field ++ [.text word])

variable {config other : Config}

/-- Tighter configurations differ in their lists only. -/
theorem IsTighter.exists_list {tight : Config} (tighter : tight.IsTighter config) :
    ∃ list, tight = { config with list } :=
  ⟨tight.list, by rw [← tighter.scalars]⟩

theorem SameWords.symm (same : config.SameWords other) : other.SameWords config :=
  ⟨same.scalars.symm, fun field brandless word => (same.lists field brandless word).symm⟩

theorem words_addWord (config : Config) (field other : ListField) (word : String) :
    (config.addWord field word).words other =
      if other = field then config.words field ++ [word.toList] else config.words other := by
  unfold words addWord setList
  split <;> simp_all [Value.chars]

theorem IsGeneral.addWord (general : config.IsGeneral) (field : ListField) (word : String) :
    (config.addWord field word).IsGeneral := by
  refine { general with words := fun other brandless item member => ?_ }
  unfold Config.addWord setList at member
  dsimp only at member
  split at member
  · next same =>
    subst same
    rcases List.mem_append.mp member with member | member
    · exact general.words _ brandless item member
    · exact ⟨word, List.mem_singleton.mp member⟩
  · exact general.words other brandless item member

end Config

namespace Pipeline

/-! ### Tighter configurations -/

section Tighter

variable {tight config : Config} (tighter : tight.IsTighter config)

include tighter

theorem pieceLaw_le_of_isTighter : pieceLaw tight ≤ pieceLaw config := by
  obtain ⟨list, rfl⟩ := tighter.exists_list
  rintro s piece ⟨content, present, absent⟩
  exact ⟨content, fun word member => present word (tighter.mustContain member),
    fun word member => absent word (tighter.mustNotContain member)⟩

theorem leadLaw_le_of_isTighter :
    leadLaw tight (tight.words .disallowedWords) ≤
      leadLaw config (config.words .disallowedWords) := by
  obtain ⟨list, rfl⟩ := tighter.exists_list
  rintro s lead ⟨dotted, tied, clear⟩
  exact ⟨dotted, fun none' => tied (tighter.noneDisallowed none'),
    fun word member => clear word (tighter.disallowed member)⟩

theorem allowedLaw_le_of_isTighter {law other : Law} (below : law ≤ other) :
    allowedLaw tight law ≤ allowedLaw config other := by
  by_cases none' : config.words .allowedWords = []
  · have noneTight : tight.words .allowedWords = [] :=
      List.subset_nil.mp (none' ▸ tighter.allowed)
    rw [allowedLaw, allowedLaw, none', noneTight]
    exact below
  · rw [allowedLaw_of_ne_nil none', allowedLaw_of_ne_nil (tighter.someAllowed none')]
    obtain ⟨list, rfl⟩ := tighter.exists_list
    rintro s found ⟨word, member, spelled⟩
    exact ⟨word, tighter.allowed member, spelled⟩

/-- A tighter configuration has a law below the other one's. -/
theorem law_le_of_isTighter : law tight ≤ law config := by
  have piece := pieceLaw_le_of_isTighter tighter
  have lead := leadLaw_le_of_isTighter tighter
  have allowed {law other : Law} (below : law ≤ other) := allowedLaw_le_of_isTighter tighter below
  obtain ⟨list, rfl⟩ := tighter.exists_list
  exact Law.then_mono lead (allowed (endsLaw_mono (lengthLaw_mono (repetitionsLaw_mono piece))))

/-- A tighter configuration is at fault where the other one is. -/
theorem activeInner?_of_isTighter : activeInner? tight = activeInner? config := by
  have listed : tight.words .allowedWords = [] ↔ config.words .allowedWords = [] :=
    ⟨fun none' => by_contra fun listed => tighter.someAllowed listed none',
      fun none' => List.subset_nil.mp (none' ▸ tighter.allowed)⟩
  rw [activeInner?, activeInner?, lengthInner?, lengthInner?, repetitionInner?, repetitionInner?,
    tighter.scalars]
  simp only [listed]

theorem hasBounds_of_isTighter (bounds : config.HasBounds) : tight.HasBounds := by
  obtain ⟨list, rfl⟩ := tighter.exists_list
  exact { bounds with }

theorem isWritten_of_isTighter : tight.IsWritten ↔ config.IsWritten := by
  obtain ⟨list, rfl⟩ := tighter.exists_list
  exact ⟨fun written => ⟨written.repetitions, written.length⟩,
    fun written => ⟨written.repetitions, written.length⟩⟩

/-- A tighter configuration is refused for the same cause as the other one, or both compile. -/
theorem outcome_of_isTighter (general : config.IsGeneral) (generalTight : tight.IsGeneral)
    (bounds : config.HasBounds) :
    (∃ text tightText fault tightFault, fault.cause = tightFault.cause ∧
      Matcher.ofConfig config = .error (.pattern text fault) ∧
        Matcher.ofConfig tight = .error (.pattern tightText tightFault)) ∨
    ∃ matcher tightMatcher, Matcher.ofConfig config = .ok matcher ∧
      Matcher.ofConfig tight = .ok tightMatcher := by
  have boundsTight := hasBounds_of_isTighter tighter bounds
  by_cases written : config.IsWritten
  swap
  · -- Bounds that cannot be written are refused in both.
    have writtenTight := mt (isWritten_of_isTighter tighter).mp written
    exact .inl ⟨_, _, _, _, rfl, ofConfig_of_not_isWritten general written,
      ofConfig_of_not_isWritten generalTight writtenTight⟩
  obtain ⟨text, -, compiles⟩ := ofConfig_outlined general bounds written
  obtain ⟨tightText, -, compilesTight⟩ :=
    ofConfig_outlined generalTight boundsTight ((isWritten_of_isTighter tighter).mpr written)
  have cause : cause? (outlined tight) = cause? (outlined config) := by
    rw [cause?_outlined, cause?_outlined, activeInner?_of_isTighter tighter]
  cases drew : outlined config <;> cases drewTight : outlined tight <;>
    rw [drew, drewTight] at cause <;> rw [drew] at compiles <;> rw [drewTight] at compilesTight
  -- With the same cause, either both outlines have a fault or neither has one.
  case error.error fault tightFault =>
    obtain rfl := Option.some.inj cause
    obtain ⟨place, refused⟩ := compiles
    obtain ⟨tightPlace, refusedTight⟩ := compilesTight
    exact .inl ⟨text, tightText, ⟨_, place⟩, ⟨_, tightPlace⟩, rfl, refused, refusedTight⟩
  case ok.ok row tightRow => exact .inr ⟨_, _, compiles.2, compilesTight.2⟩
  all_goals cases cause

/-- A tighter configuration accepts no other texts. -/
theorem accepts_of_isTighter (general : config.IsGeneral) (generalTight : tight.IsGeneral)
    (bounds : config.HasBounds) {matcher tightMatcher : Matcher}
    (compiled : Matcher.ofConfig config = .ok matcher)
    (compiledTight : Matcher.ofConfig tight = .ok tightMatcher) {text : String}
    (accepted : tightMatcher.accepts text = true) : matcher.accepts text = true := by
  have options : optionsOf tight = optionsOf config := by
    simp only [optionsOf, MatchOptions.ofConfig, tighter.scalars]
  exact accepts_of_law_le generalTight (hasBounds_of_isTighter tighter bounds) general bounds
    options (law_le_of_isTighter tighter) compiledTight compiled accepted

end Tighter

/-! ### The same words -/

variable {config other : Config}

theorem words_subset_of_sameWords (same : config.SameWords other) {field : ListField}
    (brandless : field ≠ .cardBrands) : config.words field ⊆ other.words field :=
  List.map_subset _ fun word => (same.lists field brandless word).mp

theorem isTighter_of_sameWords (same : config.SameWords other) : config.IsTighter other where
  scalars := same.scalars
  mustContain := words_subset_of_sameWords same.symm (by decide)
  mustNotContain := words_subset_of_sameWords same.symm (by decide)
  disallowed := words_subset_of_sameWords same.symm (by decide)
  allowed := words_subset_of_sameWords same (by decide)
  noneDisallowed none' :=
    List.subset_nil.mp (none' ▸ words_subset_of_sameWords same (by decide))
  someAllowed listed none' :=
    listed (List.subset_nil.mp (none' ▸ words_subset_of_sameWords same.symm (by decide)))

/-- Configurations with the same words in their lists come to the same: they are refused for the
same cause, or they accept the same texts. -/
theorem agree_of_sameWords {config other : Config} (general : config.IsGeneral)
    (generalOther : other.IsGeneral) (bounds : config.HasBounds) (same : config.SameWords other) :
    Matcher.Agree Error.IsAlike (Matcher.ofConfig config) (Matcher.ofConfig other) := by
  have tighter : other.IsTighter config := isTighter_of_sameWords same.symm
  have looser : config.IsTighter other := isTighter_of_sameWords same
  have boundsOther := hasBounds_of_isTighter tighter bounds
  rcases outcome_of_isTighter tighter general generalOther bounds with
    ⟨text, otherText, fault, otherFault, cause, refused, refusedOther⟩ |
      ⟨matcher, otherMatcher, compiled, compiledOther⟩
  · rw [refused, refusedOther]
    exact .refuse cause
  · rw [compiled, compiledOther]
    refine .accept fun text => Bool.eq_iff_iff.mpr ?_
    exact ⟨accepts_of_isTighter looser generalOther general boundsOther compiledOther compiled,
      accepts_of_isTighter tighter general generalOther bounds compiled compiledOther⟩

/-- Two pieces, and some words that the text has to contain. -/
def asking (words : List String) : Config :=
  (Config.default.setScalar .exactRepetitions (.int 2)).setList .mustContain (words.map .text)

theorem isGeneral_asking (words : List String) : (asking words).IsGeneral where
  unshaped := rfl
  custom := rfl
  opening := .inl rfl
  closing := .inl rfl
  words field _ word member := by
    cases field with
    | mustContain =>
      obtain ⟨s, -, rfl⟩ := List.mem_map.mp member
      exact ⟨s, rfl⟩
    | _ => exact (List.not_mem_nil member).elim

theorem hasBounds_asking (words : List String) : (asking words).HasBounds where
  minLength := .inl rfl
  maxLength := .inl rfl
  exactRepetitions := .inr (.inl ⟨2, rfl⟩)
  minRepetitions _ := .inl rfl
  maxRepetitions _ := .inl rfl

theorem sameWords_asking {words others : List String} (same : ∀ s, s ∈ words ↔ s ∈ others) :
    (asking words).SameWords (asking others) where
  scalars := rfl
  lists field _ word := by
    cases field with
    | mustContain => simp [asking, Config.setList, same]
    | _ => exact Iff.rfl

theorem agree_of_sameWords_asking :
    (asking ["x", "xy"]).IsGeneral ∧ (asking ["xy", "x", "xy"]).IsGeneral ∧
      (asking ["x", "xy"]).HasBounds ∧
      (asking ["x", "xy"]).SameWords (asking ["xy", "x", "xy"]) ∧
      Matcher.Agree Error.IsAlike (Matcher.ofConfig (asking ["x", "xy"]))
        (Matcher.ofConfig (asking ["xy", "x", "xy"])) := by
  have general := isGeneral_asking ["x", "xy"]
  have generalOther := isGeneral_asking ["xy", "x", "xy"]
  have bounds := hasBounds_asking ["x", "xy"]
  have same : (asking ["x", "xy"]).SameWords (asking ["xy", "x", "xy"]) :=
    sameWords_asking fun s => by
      simp only [List.mem_cons, List.not_mem_nil, or_false]
      tauto
  exact ⟨general, generalOther, bounds, same,
    agree_of_sameWords general generalOther bounds same⟩

/-! ### One more word -/

theorem words_subset_addWord (config : Config) (field other : ListField) (word : String) :
    config.words other ⊆ (config.addWord field word).words other := by
  rw [Config.words_addWord]
  split
  · next same => exact same ▸ List.subset_append_left _ _
  · exact List.Subset.refl _

theorem isTighter_addWord {field : ListField} (word : String)
    (kind : field = .mustContain ∨ field = .mustNotContain ∨
      field = .disallowedWords ∧ config.list .disallowedWords ≠ []) :
    (config.addWord field word).IsTighter config := by
  have unlike : ListField.allowedWords ≠ field := by
    rcases kind with rfl | rfl | ⟨rfl, -⟩ <;> decide
  have allowed : (config.addWord field word).words .allowedWords = config.words .allowedWords := by
    rw [Config.words_addWord, if_neg unlike]
  have more (other : ListField) := words_subset_addWord config field other word
  refine ⟨rfl, more _, more _, more _, allowed ▸ List.Subset.refl _, fun none' => ?_,
    fun listed => ?_⟩
  · rw [Config.words_addWord]
    split
    · next same =>
      rcases kind with rfl | rfl | ⟨rfl, listed⟩
      · cases same
      · cases same
      · exact absurd (List.map_eq_nil_iff.mp none') listed
    · exact none'
  · rw [allowed]
    exact listed

theorem isTighter_addWord_allowed (word : String) (listed : config.list .allowedWords ≠ []) :
    config.IsTighter (config.addWord .allowedWords word) := by
  have kept (field : ListField) (unlike : field ≠ .allowedWords) :
      (config.addWord .allowedWords word).words field ⊆ config.words field := by
    rw [Config.words_addWord, if_neg unlike]
    exact List.Subset.refl _
  have more (field : ListField) := words_subset_addWord config .allowedWords field word
  refine ⟨rfl, kept .mustContain (by decide), kept .mustNotContain (by decide),
    kept .disallowedWords (by decide), more .allowedWords, fun none' => ?_, fun _ none' => ?_⟩
  · exact List.subset_nil.mp (none' ▸ more .disallowedWords)
  · exact listed (List.map_eq_nil_iff.mp none')

/-- One more word moves the accepted texts one way. With one more word that the text has to contain,
that it must not contain, or that is disallowed beside others, no other texts are accepted; with one
more word that is allowed beside others, all texts still are. -/
theorem accepts_addWord {config : Config} (general : config.IsGeneral) (bounds : config.HasBounds)
    {matcher : Matcher} (compiled : Matcher.ofConfig config = .ok matcher) (word : String) :
    (∀ field, (field = .mustContain ∨ field = .mustNotContain ∨
        field = .disallowedWords ∧ config.list .disallowedWords ≠ []) →
      ∃ more, Matcher.ofConfig (config.addWord field word) = .ok more ∧
        ∀ text, more.accepts text = true → matcher.accepts text = true) ∧
    (config.list .allowedWords ≠ [] →
      ∃ more, Matcher.ofConfig (config.addWord .allowedWords word) = .ok more ∧
        ∀ text, matcher.accepts text = true → more.accepts text = true) := by
  constructor
  · intro field kind
    have tighter := isTighter_addWord word kind
    have generalMore := general.addWord field word
    rcases outcome_of_isTighter tighter general generalMore bounds with
      ⟨_, _, _, _, -, refused, -⟩ | ⟨_, more, -, compiledMore⟩
    · cases compiled.symm.trans refused
    · exact ⟨more, compiledMore, fun _ =>
        accepts_of_isTighter tighter general generalMore bounds compiled compiledMore⟩
  · intro listed
    have tighter := isTighter_addWord_allowed word listed
    have generalMore := general.addWord .allowedWords word
    have boundsMore : (config.addWord .allowedWords word).HasBounds := { bounds with }
    rcases outcome_of_isTighter tighter generalMore general boundsMore with
      ⟨_, _, _, _, -, -, refused⟩ | ⟨more, _, compiledMore, -⟩
    · cases compiled.symm.trans refused
    · exact ⟨more, compiledMore, fun _ =>
        accepts_of_isTighter tighter generalMore general boundsMore compiledMore compiled⟩

/-- One word that is allowed and one that is not. -/
def choosing : Config :=
  (Config.default.setList .allowedWords [.text "x"]).setList .disallowedWords [.text "y"]

theorem isGeneral_choosing : choosing.IsGeneral where
  unshaped := rfl
  custom := rfl
  opening := .inl rfl
  closing := .inl rfl
  words field _ word member := by
    cases field with
    | allowedWords => exact ⟨"x", List.mem_singleton.mp member⟩
    | disallowedWords => exact ⟨"y", List.mem_singleton.mp member⟩
    | _ => exact (List.not_mem_nil member).elim

theorem hasBounds_choosing : choosing.HasBounds :=
  ⟨.inl rfl, .inl rfl, .inl rfl, fun _ => .inl rfl, fun _ => .inl rfl⟩

theorem accepts_addWord_choosing : choosing.IsGeneral ∧ choosing.HasBounds ∧
    choosing.list .disallowedWords ≠ [] ∧ choosing.list .allowedWords ≠ [] ∧
    ∃ matcher, Matcher.ofConfig choosing = .ok matcher ∧
      (∃ more, Matcher.ofConfig (choosing.addWord .disallowedWords "z") = .ok more ∧
        ∀ text, more.accepts text = true → matcher.accepts text = true) ∧
      ∃ more, Matcher.ofConfig (choosing.addWord .allowedWords "z") = .ok more ∧
        ∀ text, matcher.accepts text = true → more.accepts text = true := by
  have general := isGeneral_choosing
  have bounds := hasBounds_choosing
  have disallowed : choosing.list .disallowedWords ≠ [] := List.cons_ne_nil _ _
  have allowed : choosing.list .allowedWords ≠ [] := List.cons_ne_nil _ _
  obtain ⟨matcher, compiled⟩ := exists_ofConfig_eq general bounds ⟨rfl, rfl⟩ rfl
  obtain ⟨narrows, widens⟩ := accepts_addWord general bounds compiled "z"
  exact ⟨general, bounds, disallowed, allowed, matcher, compiled,
    narrows .disallowedWords (.inr (.inr ⟨rfl, disallowed⟩)), widens allowed⟩

end Pipeline

end Patternwright
