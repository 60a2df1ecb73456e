import Patternwright.Proofs.Pipeline.Compile
import Patternwright.Proofs.Regex.LawOrder

/-!
# The law of a configuration

Without a shape and a custom pattern, the pattern of a configuration obeys a law that can be told
stage by stage, under any options and any bounds. A piece is made of characters of the switches that
are on, or of characters that the dot accepts, and conditions on words hold where it begins. Each
later stage makes another law of the one that is there so far, or takes its place.

Words are found as the options have it: where case does not count, a word stands for all words that
its literals accept.

## Main definitions

* `Pipeline.IsDotted`, `Pipeline.Finds` — what the dot accepts, and where a word is found
* `Pipeline.pieceLaw` — the law of a piece
* `Pipeline.repetitionsLaw`, `Pipeline.lengthLaw`, `Pipeline.endsLaw`, `Pipeline.wordsLaw` — what
  the stages make of a law
* `Pipeline.law` — the law of a configuration
* `Matcher.Agree` — two configurations come to the same

## Main results

* `Pipeline.obeys_outline` — the outline of a configuration obeys its law
* `Pipeline.accepts_iff_law` — the accepted texts
* `Pipeline.accepts_of_law_le` — a law above another one accepts more texts
-/

namespace Patternwright

open Regex

namespace Pipeline

/-- The options of a configuration. -/
abbrev optionsOf (config : Config) : Options := (MatchOptions.ofConfig config).toOptions

/-- The dot accepts all characters of the text. -/
def IsDotted (config : Config) (text : List Char) : Prop :=
  ∀ c ∈ text, config.isOn .dotAll = true ∨ c ≠ '\n'

/-- A word that is accepted for the given one comes somewhere in the text, after nothing but
characters that the dot accepts. -/
def Finds (config : Config) (word text : List Char) : Prop :=
  ∃ skipped found, IsDotted config skipped ∧ Spells (optionsOf config) word found ∧
    skipped ++ found <+: text

/-- What there is without repetitions and ends: conditions, and the characters of a piece. -/
def pieceRow (config : Config) : List Node :=
  conditions config ++ (if classRow config = [] then [Regex.anything] else classRow config)

/-- The characters of a piece: some of the class, or any that the dot accepts. -/
def contentLaw (config : Config) : Law := fun _ piece =>
  if partsOn config = [] then IsDotted config piece
  else piece ≠ [] ∧
    ∀ c ∈ piece, (CharTest.set false (classItems config)).accepts (optionsOf config) c = true

/-- A piece: characters, and conditions that hold where it begins. -/
def pieceLaw (config : Config) : Law := fun s piece =>
  contentLaw config s piece ∧ (∀ word ∈ config.words .mustContain, Finds config word s.after) ∧
    ∀ word ∈ config.words .mustNotContain, ¬ Finds config word s.after

/-- What comes before all else where some words are not to come. -/
def leadLaw (config : Config) (words : List (List Char)) : Law := fun s lead =>
  IsDotted config lead ∧ (words = [] → lead = []) ∧ ∀ word ∈ words, ¬ Finds config word s.after

/-- Any of some words. -/
def anyWordLaw (config : Config) (words : List (List Char)) : Law := fun _ found =>
  ∃ word ∈ words, Spells (optionsOf config) word found

/-- What repetitions make of a law. -/
def repetitionsLaw (config : Config) (law : Law) : Law :=
  match repetitionInner? config with
  | none => law
  | some inner => law.counted (optionsOf config) inner

/-- What bounds of the length leave of a law: nothing, if there are any. -/
def lengthLaw (config : Config) (law : Law) : Law :=
  match lengthInner? config with
  | none => law
  | some inner =>
    let dot : Law := fun _ word =>
      ∃ c, word = [c] ∧ CharTest.any.accepts (optionsOf config) c = true
    Law.then (fun s word => word = [] ∧ Anchor.lineStart.holds (optionsOf config) s = true)
      ((dot.counted (optionsOf config) inner).then fun s word =>
        word = [] ∧ Anchor.lineEnd.holds (optionsOf config) s = true)

/-- A beginning, a law and an ending. -/
def endsLaw (config : Config) (law : Law) : Law :=
  ((Law.then fun _ word => Spells (optionsOf config) (config.scalar .opening).chars word) law).then
    fun _ word => Spells (optionsOf config) (config.scalar .closing).chars word

/-- What a list of allowed words leaves of a law: nothing, if there is one. -/
def allowedLaw (config : Config) (law : Law) : Law :=
  match config.words .allowedWords with
  | [] => law
  | words => anyWordLaw config words

theorem allowedLaw_of_ne_nil {config : Config} {law : Law}
    (listed : config.words .allowedWords ≠ []) :
    allowedLaw config law = anyWordLaw config (config.words .allowedWords) := by
  obtain ⟨word, words, given⟩ := List.exists_cons_of_ne_nil listed
  rw [allowedLaw, given]

/-- What word lists make of a law. -/
def wordsLaw (config : Config) (law : Law) : Law :=
  (leadLaw config (config.words .disallowedWords)).then (allowedLaw config law)

/-- The law of a configuration, between the anchors of the whole text. -/
def law (config : Config) : Law :=
  wordsLaw config (endsLaw config (lengthLaw config (repetitionsLaw config (pieceLaw config))))

/-! ### Order -/

variable {config : Config}

theorem repetitionsLaw_mono {law other : Law} (below : law ≤ other) :
    repetitionsLaw config law ≤ repetitionsLaw config other := by
  unfold repetitionsLaw
  split
  · exact below
  · exact Law.counted_mono below _

theorem lengthLaw_mono {law other : Law} (below : law ≤ other) :
    lengthLaw config law ≤ lengthLaw config other := by
  unfold lengthLaw
  split
  · exact below
  · exact le_rfl

theorem endsLaw_mono {law other : Law} (below : law ≤ other) :
    endsLaw config law ≤ endsLaw config other :=
  Law.then_mono (Law.then_mono le_rfl below) le_rfl

/-! ### Parts -/

theorem obeys_anything :
    Regex.anything.Obeys (optionsOf config) fun _ word => IsDotted config word := by
  refine (obeys_rep_char .any 0 (by simp)).congr fun s word _ => ?_
  simp [IsDotted, CharTest.accepts, MatchOptions.ofConfig, MatchOptions.toOptions, Config.isOn]

theorem obeys_contains (negated : Bool) (word : List Char) :
    (contains negated word).Obeys (optionsOf config) fun s passed =>
      passed = [] ∧ (Finds config word s.after ↔ negated = false) := by
  have spelled : (Node.sequence (literals word)).Obeys (optionsOf config) fun _ other =>
      Spells (optionsOf config) word other := obeys_spelled word
  have inside := obeys_sequence_cons obeys_anything spelled
  refine (obeys_ahead inside negated).congr fun s passed _ => ?_
  have finds : (∃ found, found <+: s.after ∧ Law.then (fun _ word => IsDotted config word)
      (fun _ other => Spells (optionsOf config) word other) s found) ↔
        Finds config word s.after := by
    constructor
    · rintro ⟨_, ahead, skipped, found, rfl, dotted, spelled⟩
      exact ⟨skipped, found, dotted, spelled, ahead⟩
    · rintro ⟨skipped, found, dotted, spelled, ahead⟩
      exact ⟨_, ahead, skipped, found, rfl, dotted, spelled⟩
  rw [finds]

/-- Conditions on words in a row hold all at the same place. -/
theorem obeys_containsAll (config : Config) (negated : Bool) (words : List (List Char)) :
    (Node.sequence (words.map (contains negated))).Obeys (optionsOf config) fun s passed =>
      passed = [] ∧ ∀ word ∈ words, (Finds config word s.after ↔ negated = false) := by
  -- A condition that holds does not move, so the next one is tried at the same place.
  induction words with
  | nil => exact obeys_empty.congr fun s passed _ => by simp
  | cons word words ih =>
    refine (obeys_sequence_cons (obeys_contains negated word) ih).congr fun s passed _ => ?_
    constructor
    · rintro ⟨_, _, rfl, ⟨rfl, here⟩, rfl, later⟩
      exact ⟨rfl, by simpa [here] using later⟩
    · rintro ⟨rfl, all⟩
      obtain ⟨here, later⟩ := List.forall_mem_cons.mp all
      exact ⟨[], [], rfl, ⟨rfl, here⟩, rfl, by simpa using later⟩

theorem obeys_content :
    (Node.sequence (if classRow config = [] then [Regex.anything] else classRow config)).Obeys
      (optionsOf config) (contentLaw config) := by
  unfold classRow contentLaw
  cases partsOn config with
  | nil => exact obeys_anything
  | cons part parts =>
    refine (obeys_rep_char (.set false (classItems config)) 1 (by simp)).congr fun s word _ => ?_
    simp only [reduceCtorEq, ↓reduceIte, false_implies, implies_true, true_and]
    refine and_congr ?_ Iff.rfl
    rw [Nat.one_le_iff_ne_zero, Ne, List.length_eq_zero_iff]

/-- A piece is what the stages draw for it. -/
theorem obeys_pieceRow :
    (Node.sequence (pieceRow config)).Obeys (optionsOf config) (pieceLaw config) := by
  have present := obeys_containsAll config false (config.words .mustContain)
  have absent := obeys_containsAll config true (config.words .mustNotContain)
  have conditional := obeys_sequence_append present absent
  refine (obeys_sequence_append conditional obeys_content).congr fun s piece _ => ?_
  constructor
  · rintro ⟨_, _, rfl, ⟨_, _, rfl, ⟨rfl, present⟩, rfl, absent⟩, content⟩
    refine ⟨content, by simpa using present, ?_⟩
    simpa using absent
  · rintro ⟨content, present, absent⟩
    refine ⟨[], piece, rfl, ⟨[], [], rfl, ⟨rfl, by simpa using present⟩, rfl, ?_⟩, content⟩
    simpa using absent

theorem obeys_anyWord {words : List (List Char)} (nonempty : words ≠ []) :
    (anyWord words).Obeys (optionsOf config) (anyWordLaw config words) :=
  obeys_anyOf nonempty fun word _ => obeys_spelled word

/-- What stands in front of a row in which some words are not to come. -/
theorem obeys_withoutWords (words : List (List Char)) :
    (Node.sequence (withoutWords words)).Obeys (optionsOf config) (leadLaw config words) := by
  cases words with
  | nil =>
    refine obeys_empty.congr fun s lead _ => ?_
    constructor
    · rintro rfl
      simp [leadLaw, IsDotted]
    · exact fun allowed => allowed.2.1 rfl
  | cons word words =>
    have anyOne : (Node.sequence [anyWord (word :: words)]).Obeys (optionsOf config)
        (anyWordLaw config (word :: words)) := obeys_anyWord (by simp)
    have ahead := obeys_ahead (obeys_sequence_cons obeys_anything anyOne) true
    have lead : (Node.sequence [Regex.anything]).Obeys (optionsOf config) fun _ lead =>
        IsDotted config lead := obeys_anything
    refine (obeys_sequence_cons ahead lead).congr fun s lead _ => ?_
    -- The condition holds if no word is found behind characters that the dot accepts.
    have finds : (∃ found, found <+: s.after ∧ Law.then (fun _ skipped => IsDotted config skipped)
        (anyWordLaw config (word :: words)) s found) ↔
          ∃ other ∈ word :: words, Finds config other s.after := by
      constructor
      · rintro ⟨_, ahead, skipped, found, rfl, dotted, other, member, spelled⟩
        exact ⟨other, member, skipped, found, dotted, spelled, ahead⟩
      · rintro ⟨other, member, skipped, found, dotted, spelled, ahead⟩
        exact ⟨_, ahead, skipped, found, rfl, dotted, other, member, spelled⟩
    rw [Law.then, leadLaw]
    simp only [finds]
    constructor
    · rintro ⟨_, _, rfl, ⟨rfl, clear⟩, dotted⟩
      refine ⟨dotted, by simp, fun other member found => ?_⟩
      simpa using clear.mp ⟨other, member, found⟩
    · rintro ⟨dotted, -, clear⟩
      refine ⟨[], lead, rfl, ⟨rfl, ?_⟩, dotted⟩
      simpa using clear

/-! ### Stages -/

/-- The row of a draft, if it has one, obeys a law. -/
def ObeysDraft (config : Config) (draft : Draft) (law : Law) : Prop :=
  ∀ row, draft = .ok row → (Node.sequence row).Obeys (optionsOf config) law

theorem ObeysDraft.map {draft : Draft} {law other : Law} (obeys : ObeysDraft config draft law)
    {change : List Node → List Node}
    (keeps : ∀ row, (Node.sequence row).Obeys (optionsOf config) law →
      (Node.sequence (change row)).Obeys (optionsOf config) other) :
    ObeysDraft config (draft.map change) other := by
  rintro _ changed
  cases draft with
  | error cause => cases changed
  | ok row =>
    obtain rfl := Except.ok.inj changed
    exact keeps row (obeys row rfl)

variable {draft : Draft} {law : Law}

theorem obeysDraft_repetitions (obeys : ObeysDraft config draft law) :
    ObeysDraft config (Stage.repetitions.outline config draft) (repetitionsLaw config law) := by
  rw [Stage.outline, repetitionsLaw]
  cases repetitionInner? config with
  | none => exact obeys
  | some inner =>
    intro next made
    cases draft with
    | error cause => cases made
    | ok row => exact obeys_counted (obeys row rfl) made

theorem obeysDraft_lengthBounds (obeys : ObeysDraft config draft law) :
    ObeysDraft config (Stage.lengthBounds.outline config draft) (lengthLaw config law) := by
  rw [Stage.outline, lengthLaw]
  cases lengthInner? config with
  | none => exact obeys
  | some inner =>
    have dots : ObeysDraft config (counted inner (.char .any)) _ := fun _ =>
      obeys_counted (obeys_char .any)
    have ending : (Node.sequence [.anchor .lineEnd]).Obeys (optionsOf config) _ :=
      obeys_anchor .lineEnd
    exact dots.map fun _ holds =>
      obeys_sequence_cons (obeys_anchor .lineStart) (obeys_sequence_append holds ending)

theorem obeysDraft_ends (obeys : ObeysDraft config draft law) :
    ObeysDraft config (Stage.ends.outline config draft) (endsLaw config law) :=
  obeys.map fun _ holds => obeys_sequence_append
    (obeys_sequence_append (obeys_spelled _) holds) (obeys_spelled _)

theorem obeysDraft_words (obeys : ObeysDraft config draft law) :
    ObeysDraft config (Stage.words.outline config draft) (wordsLaw config law) := by
  have allowed : ObeysDraft config (onlyWords draft (config.words .allowedWords))
      (allowedLaw config law) := by
    unfold onlyWords allowedLaw
    cases config.words .allowedWords with
    | nil => exact obeys
    | cons word words =>
      rintro _ made
      obtain rfl := Except.ok.inj made
      exact obeys_anyWord (by simp)
  exact allowed.map fun _ holds => obeys_sequence_append (obeys_withoutWords _) holds

/-- The outline of a configuration obeys its law. -/
theorem obeys_outline (config : Config) :
    ObeysDraft config (outline config) (Pipeline.law config) := by
  have piece : ObeysDraft config (.ok (pieceRow config)) (pieceLaw config) := by
    rintro _ made
    obtain rfl := Except.ok.inj made
    exact obeys_pieceRow
  exact obeysDraft_words (obeysDraft_ends (obeysDraft_lengthBounds (obeysDraft_repetitions piece)))

/-- The accepted texts have a word that the law of the configuration allows, from the start of a
line to the end of one. -/
theorem accepts_iff_law (general : config.IsGeneral) (bounds : config.HasBounds)
    {matcher : Matcher} (compiled : Matcher.ofConfig config = .ok matcher) (text : String) :
    matcher.accepts text = true ↔
      ∃ earlier word later, text.toList = earlier ++ (word ++ later) ∧
        StartsLine (optionsOf config) earlier ∧ EndsLine (optionsOf config) later ∧
        Pipeline.law config (.fresh earlier.reverse (word ++ later) 1) word := by
  obtain ⟨-, row, -, drew, -, pattern⟩ := exists_outline general bounds compiled
  rw [Matcher.accepts, pattern]
  exact Pattern.accepts_iff_between (obeys_outline config row drew) 1 text

/-- What a law allows, any law above it does: the more the law of a configuration allows, the more
texts are accepted. -/
theorem accepts_of_law_le {other : Config} (general : config.IsGeneral)
    (bounds : config.HasBounds) (generalOther : other.IsGeneral) (boundsOther : other.HasBounds)
    (options : optionsOf config = optionsOf other)
    (below : Pipeline.law config ≤ Pipeline.law other) {matcher matcherOther : Matcher}
    (compiled : Matcher.ofConfig config = .ok matcher)
    (compiledOther : Matcher.ofConfig other = .ok matcherOther) {text : String}
    (accepted : matcher.accepts text = true) : matcherOther.accepts text = true := by
  obtain ⟨earlier, word, later, split, starts, ends, allowed⟩ :=
    (accepts_iff_law general bounds compiled text).mp accepted
  rw [options] at starts ends
  exact (accepts_iff_law generalOther boundsOther compiledOther text).mpr
    ⟨earlier, word, later, split, starts, ends, below _ word allowed⟩

end Pipeline

/-- Two outcomes agree: both are matchers, which accept the same texts, or both are errors, which
are alike. -/
inductive Matcher.Agree (Alike : Error → Error → Prop) :
    Except Error Matcher → Except Error Matcher → Prop
  | accept {matcher other : Matcher} (same : ∀ text, matcher.accepts text = other.accepts text) :
      Agree Alike (.ok matcher) (.ok other)
  | refuse {error other : Error} (alike : Alike error other) :
      Agree Alike (.error error) (.error other)

theorem Matcher.agree_self (outcome : Except Error Matcher) :
    Matcher.Agree (· = ·) outcome outcome := by
  cases outcome with
  | error error => exact .refuse rfl
  | ok matcher => exact .accept fun _ => rfl

end Patternwright
