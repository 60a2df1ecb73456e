import Patternwright.Matcher
import Patternwright.Proofs.Pipeline.CharacterClass
import Patternwright.Proofs.Regex.Counts

/-!
# What the stages build, as trees

Every stage can be told without text: it takes a row of parts and gives a row of parts. The words of
a configuration take part in that as rows of literals and nothing else.

The stages themselves write text. The two accounts agree: if the text so far reads as a row, then
the text that a stage makes of it reads as the row that the stage makes of that row. Only the counts
in braces can spoil a text, and from then on it stays refused until a stage throws it away.

The stages that write no counts are dealt with here.

## Main definitions

* `Config.IsLiteral`, `Config.IsGeneral` — ends and words are texts; and no shape and no custom
  pattern is asked for
* `Config.IsOrdinary` — besides, bounds are counts
* `Draft`, `Stage.draw` — a row or the cause that there is none, and what a stage makes of it
* `Pipeline.draw` — what all stages make of nothing
* `Stands` — a text reads as a draft

## Main results

* `Pipeline.characterClass_stands`, `Pipeline.lookarounds_stands`, `Pipeline.opening_stands`,
  `Pipeline.closing_stands`, `Pipeline.allowedWords_stands`, `Pipeline.disallowedWords_stands` —
  each of these keeps text and draft together
-/

namespace Patternwright

open Regex

/-! ### Configurations without a shape -/

/-- The characters of a text; other values have none. -/
def Value.chars : Value → List Char
  | .text s => s.toList
  | _ => []

/-- The number of an integer; other values have none. -/
def Value.count? : Value → Option Int
  | .int n => some n
  | _ => none

namespace Config

/-- The words of a list. -/
def words (config : Config) (field : ListField) : List (List Char) :=
  (config.list field).map Value.chars

theorem words_eq_nil_iff {config : Config} {field : ListField} :
    config.words field = [] ↔ config.list field = [] := List.map_eq_nil_iff

/-- The count in a field, if it has one. -/
def count? (config : Config) (field : Scalar) : Option Int := (config.scalar field).count?

/-- The value is missing or a text. -/
def IsText (value : Value) : Prop := value = .null ∨ ∃ s, value = .text s

/-- The value is missing or an integer that can be read back. -/
def IsCount (value : Value) : Prop := value = .null ∨ ∃ n, value = .int n ∧ IsShort n

/-- The ends are texts if they are there at all, and words are texts. -/
structure IsLiteral (config : Config) : Prop where
  opening : IsText (config.scalar .opening)
  closing : IsText (config.scalar .closing)
  words : ∀ field, field ≠ .cardBrands → ∀ word ∈ config.list field, ∃ s, word = .text s

/-- No shape and no custom pattern is asked for; ends and words are texts. -/
structure IsGeneral (config : Config) : Prop extends config.IsLiteral where
  unshaped : Shape.select? config = none
  custom : config.scalar .custom = .text ""

/-- No shape and no custom pattern is asked for; words are texts and bounds are integers. Bounds of
the repetitions do not count beside an exact number of them. -/
structure IsOrdinary (config : Config) : Prop where
  unshaped : Shape.select? config = none
  custom : config.scalar .custom = .text ""
  opening : IsText (config.scalar .opening)
  closing : IsText (config.scalar .closing)
  words : ∀ field, field ≠ .cardBrands → ∀ word ∈ config.list field, ∃ s, word = .text s
  minLength : IsCount (config.scalar .minLength)
  maxLength : IsCount (config.scalar .maxLength)
  exactRepetitions : IsCount (config.scalar .exactRepetitions)
  minRepetitions : config.scalar .exactRepetitions = .null →
    IsCount (config.scalar .minRepetitions)
  maxRepetitions : config.scalar .exactRepetitions = .null →
    IsCount (config.scalar .maxRepetitions)

theorem IsOrdinary.isGeneral {config : Config} (ordinary : config.IsOrdinary) :
    config.IsGeneral :=
  { ordinary with }

end Config

/-! ### Stages on drafts -/

/-- A row of parts, or the cause that there is none. -/
abbrev Draft := Except Cause (List Node)

namespace Pipeline

/-- The braces for two bounds, if either is given; a lower bound that is not given is zero. -/
def between? : Option Int → Option Int → Option Braces
  | none, none => none
  | low, high => some (.between (low.getD 0) high)

/-- The braces that repeat what is there; an exact count goes before bounds. -/
def repetitionBraces? (config : Config) : Option Braces :=
  match config.count? .exactRepetitions with
  | some count => some (.exactly count)
  | none => between? (config.count? .minRepetitions) (config.count? .maxRepetitions)

/-- The braces that bound the length. -/
def lengthBraces? (config : Config) : Option Braces :=
  between? (config.count? .minLength) (config.count? .maxLength)

/-- One or more characters of the switches that are on, if any are. -/
def classRow (config : Config) : List Node :=
  match partsOn config with
  | [] => []
  | _ :: _ => [.rep .greedy 1 none (.char (.set false (classItems config)))]

/-- A word is still to come, or it is not. -/
def contains (negated : Bool) (word : List Char) : Node :=
  .ahead negated (.sequence (Regex.anything :: literals word))

/-- The conditions on what the text contains. -/
def conditions (config : Config) : List Node :=
  (config.words .mustContain).map (contains false) ++
    (config.words .mustNotContain).map (contains true)

/-- Any of some words. -/
def anyWord (words : List (List Char)) : Node :=
  .anyOf (words.map fun word => .sequence (literals word))

/-- Some words in place of a row. -/
def onlyWords (draft : Draft) : List (List Char) → Draft
  | [] => draft
  | words => .ok [anyWord words]

theorem onlyWords_of_ne_nil {draft : Draft} {words : List (List Char)} (listed : words ≠ []) :
    onlyWords draft words = .ok [anyWord words] := by
  obtain ⟨word, words, rfl⟩ := List.exists_cons_of_ne_nil listed
  rfl

/-- What stands before a row in which some words are not to come. -/
def withoutWords : List (List Char) → List Node
  | [] => []
  | words => [.ahead true (.sequence [Regex.anything, anyWord words]), Regex.anything]

theorem withoutWords_of_ne_nil {words : List (List Char)} (listed : words ≠ []) :
    withoutWords words =
      [.ahead true (.sequence [Regex.anything, anyWord words]), Regex.anything] := by
  obtain ⟨word, words, rfl⟩ := List.exists_cons_of_ne_nil listed
  rfl

end Pipeline

/-- What a stage makes of the row that is there so far. -/
def Stage.draw (stage : Stage) (config : Config) (draft : Draft) : Draft :=
  match stage with
  | .characterClass => .ok (Pipeline.classRow config)
  | .lookarounds => draft.map fun row =>
      Pipeline.conditions config ++ (if row = [] then [Regex.anything] else row)
  | .repetitions =>
    match Pipeline.repetitionBraces? config with
    | none => draft
    | some braces => draft.bind fun row => braces.repeated (.sequence row)
  | .lengthBounds =>
    match Pipeline.lengthBraces? config with
    | none => draft
    | some braces => (braces.repeated (.char .any)).map fun row =>
        .anchor .lineStart :: (row ++ [.anchor .lineEnd])
  | .ends => draft.map fun row =>
      literals (config.scalar .opening).chars ++ row ++ literals (config.scalar .closing).chars
  | .words =>
    (Pipeline.onlyWords draft (config.words .allowedWords)).map fun row =>
      Pipeline.withoutWords (config.words .disallowedWords) ++ row
  | .custom => draft

/-- What all stages make of nothing. -/
def Pipeline.draw (config : Config) : Draft :=
  Stage.all.foldl (fun draft stage => stage.draw config draft) (.ok [])

/-! ### Parts of the text -/

/-- The value is a text that reads as the draft, and it is empty only with the draft. -/
def Stands (value : Value) (draft : Draft) : Prop :=
  ∃ s, value = .text s ∧ Renders s.toList draft ∧ (s = "" ↔ draft = .ok [])

namespace Pipeline

theorem toList_escape (s : String) : (Text.escape s).toList = s.toList.flatMap Text.escapeChar := by
  simp [Text.escape]

/-- A condition on what the text contains is one look-ahead. -/
theorem reads_lookahead {mark : Char} {negated : Bool}
    (sign : (mark = '=' ∧ negated = false) ∨ (mark = '!' ∧ negated = true)) (word : List Char) :
    Reads ('(' :: '?' :: mark :: ('.' :: '*' :: word.flatMap Text.escapeChar ++ [')']))
      [contains negated word] := by
  have inside : Reads ('.' :: '*' :: word.flatMap Text.escapeChar)
      (Regex.anything :: literals word) := reads_anything.append (reads_escape word)
  exact (inside.fills.readsAtom_group (marks_ahead sign)).reads

/-- The conditions for a list of texts are look-aheads in a row. -/
theorem reads_lookaheads (mark : String) {sign : Char} {negated : Bool}
    (marked : mark.toList = ['?', sign])
    (kind : (sign = '=' ∧ negated = false) ∨ (sign = '!' ∧ negated = true)) (words : List Value) :
    (∀ word ∈ words, ∃ s, word = .text s) →
      ∃ parts, words.mapM (lookahead mark) = .ok parts ∧
        Reads (String.join parts).toList ((words.map Value.chars).map (contains negated)) := by
  induction words with
  | nil =>
    intro _
    exact ⟨[], rfl, reads_nil⟩
  | cons word words ih =>
    intro texts
    obtain ⟨s, rfl⟩ := texts word List.mem_cons_self
    obtain ⟨parts, built, reads⟩ := ih fun other member =>
      texts other (List.mem_cons_of_mem _ member)
    have first : lookahead mark (.text s) =
        .ok ("(" ++ mark ++ anything ++ Text.escape s ++ ")") := rfl
    refine ⟨("(" ++ mark ++ anything ++ Text.escape s ++ ")") :: parts, ?_, ?_⟩
    · rw [List.mapM_cons, first, built]
      rfl
    · have row := (reads_lookahead kind s.toList).append reads
      simpa [marked, anything, Value.chars, toList_escape] using row

/-- Texts with bars between them are the alternatives of a group. -/
theorem fills_alternation {words : List Value} (nonempty : words ≠ [])
    (texts : ∀ word ∈ words, ∃ s, word = .text s) :
    ∃ text, alternation words = .ok text ∧
      Fills text.toList ((words.map Value.chars).map fun word => .sequence (literals word)) := by
  have escapes : words.mapM literal =
      .ok (words.map fun word => String.ofList (word.chars.flatMap Text.escapeChar)) := by
    clear nonempty
    induction words with
    | nil => rfl
    | cons word words ih =>
      obtain ⟨s, rfl⟩ := texts word List.mem_cons_self
      have later := ih fun other member => texts other (List.mem_cons_of_mem _ member)
      rw [List.mapM_cons, later]
      rfl
  refine ⟨_, by rw [alternation, escapes]; rfl, ?_⟩
  have filled : Fills
      (['|'].intercalate (words.map fun word => word.chars.flatMap Text.escapeChar))
      (words.map fun word => .sequence (literals word.chars)) :=
    fills_bars nonempty fun word _ => reads_escape word.chars
  simpa [Function.comp_def] using filled

/-! ### One stage after another -/

theorem characterClass_stands (config : Config) :
    Stands (.text (characterClass config)) (.ok (classRow config)) := by
  refine ⟨_, rfl, ?_⟩
  -- Without a switch there is no class, and nothing to repeat.
  cases on : partsOn config with
  | nil =>
    have off : characterClass config = "" := by
      rw [characterClass, ← partsOn, on]
    rw [off, classRow, on]
    exact ⟨reads_nil, by simp⟩
  | cons part parts =>
    have switched : partsOn config ≠ [] := by simp [on]
    have written : (characterClass config).toList = classText config ++ ['+'] := by
      rw [characterClass, ← partsOn, on, classText, on]
      simp [List.flatMap_map]
    have begins : Calm (classText config ++ ['+']) :=
      calm_cons rfl
    have reads := (readsAtom_class switched).reads_repeated repeats_plus begins
    refine ⟨?_, ?_⟩
    · rw [written, classRow, on]
      exact reads
    · have nonempty : characterClass config ≠ "" := by
        intro empty
        rw [empty] at written
        simp [classText] at written
      simp [nonempty, classRow, on]

/-- The stage for conditions writes them before what is there, or before anything. -/
theorem lookarounds_eq {config : Config} (literal : config.IsLiteral) :
    ∃ ahead : String, Reads ahead.toList (conditions config) ∧
      ∀ s, lookarounds config (.text s) = .ok (ahead ++ if s = "" then anything else s) := by
  obtain ⟨present, builtPresent, readsPresent⟩ := reads_lookaheads "?=" rfl
    (.inl ⟨rfl, rfl⟩) (config.list .mustContain) (literal.words _ (by decide))
  obtain ⟨absent, builtAbsent, readsAbsent⟩ := reads_lookaheads "?!" rfl
    (.inr ⟨rfl, rfl⟩) (config.list .mustNotContain) (literal.words _ (by decide))
  refine ⟨String.join (present ++ absent), ?_, fun s => ?_⟩
  · have both := readsPresent.append readsAbsent
    simpa [conditions, Config.words] using both
  · rw [lookarounds, builtPresent, builtAbsent]
    by_cases empty : s = "" <;>
      simp [Bind.bind, Except.bind, Value.isTruthy, empty, appendTo]

theorem lookarounds_stands {config : Config} (literal : config.IsLiteral) {value : Value}
    {draft : Draft} (stands : Stands value draft) :
    ∃ s, lookarounds config value = .ok s ∧
      Stands (.text s) (Stage.lookarounds.draw config draft) := by
  obtain ⟨s, rfl, renders, blank⟩ := stands
  obtain ⟨ahead, reads, built⟩ := lookarounds_eq literal
  refine ⟨_, built s, _, rfl, ?_⟩
  -- With nothing there so far, the conditions stand before any text at all.
  by_cases empty : s = ""
  · obtain rfl : draft = .ok [] := blank.mp empty
    rw [if_pos empty]
    refine ⟨?_, ?_⟩
    · have whole := reads.append reads_anything
      simpa [Stage.draw, anything, Except.map, Renders] using whole
    · simp [Stage.draw, Except.map, anything]
  · have written : draft ≠ .ok [] := fun none => empty (blank.mpr none)
    rw [if_neg empty]
    refine ⟨?_, ?_⟩
    · have kept : (Stage.lookarounds.draw config draft) = draft.map (conditions config ++ ·) := by
        cases draft with
        | error cause => rfl
        | ok row =>
          have parts : row ≠ [] := fun none => written (none ▸ rfl)
          simp [Stage.draw, Except.map, parts]
      have whole := reads.append_renders renders
      rw [kept]
      simpa using whole
    · cases draft with
      | error cause => simp [Stage.draw, Except.map, empty]
      | ok row =>
        have parts : row ≠ [] := fun none => written (none ▸ rfl)
        simp [Stage.draw, Except.map, parts, empty]

/-- A text that is to be matched as it is, as it stands in a pattern. -/
def escaped (text : List Char) : String := String.ofList (text.flatMap Text.escapeChar)

theorem reads_escaped (text : List Char) : Reads (escaped text).toList (literals text) := by
  rw [escaped, String.toList_ofList]
  exact reads_escape text

/-- Only the empty text is escaped as the empty one. -/
theorem escaped_eq_empty_iff (text : List Char) : escaped text = "" ↔ literals text = [] := by
  rw [← String.toList_inj, escaped, String.toList_ofList]
  cases text with
  | nil => simp
  | cons c text =>
    -- Escaping a character leaves at least that character.
    have written : Text.escapeChar c ≠ [] := by
      unfold Text.escapeChar
      split <;> simp
    simp [written]

/-- A text that is missing adds nothing, as an empty one does. -/
theorem opening_eq {config : Config} (text : Config.IsText (config.scalar .opening)) (s : String) :
    opening config (.text s) = .ok (.text (escaped (config.scalar .opening).chars ++ s)) := by
  rcases text with absent | ⟨word, given⟩
  · rw [opening, absent]
    simp [escaped, Value.chars]
  · rw [opening, given]
    change Except.ok (Value.text (Text.escape word ++ s)) = _
    simp [escaped, Value.chars, ← toList_escape]

theorem closing_eq {config : Config} (text : Config.IsText (config.scalar .closing)) (s : String) :
    closing config (.text s) = .ok (.text (s ++ escaped (config.scalar .closing).chars)) := by
  rcases text with absent | ⟨word, given⟩
  · rw [closing, absent]
    simp [escaped, Value.chars]
  · rw [closing, given]
    change Except.ok (Value.text (s ++ Text.escape word)) = _
    simp [escaped, Value.chars, ← toList_escape]

theorem opening_stands {config : Config} (text : Config.IsText (config.scalar .opening))
    {value : Value} {draft : Draft} (stands : Stands value draft) :
    ∃ next, opening config value = .ok next ∧
      Stands next (draft.map (literals (config.scalar .opening).chars ++ ·)) := by
  obtain ⟨s, rfl, renders, blank⟩ := stands
  refine ⟨_, opening_eq text s, _, rfl, ?_, ?_⟩
  · have whole := (reads_escaped (config.scalar .opening).chars).append_renders renders
    simpa using whole
  · have part := escaped_eq_empty_iff (config.scalar .opening).chars
    cases draft with
    | error cause => simp_all [Except.map]
    | ok row => simp_all [Except.map]

theorem closing_stands {config : Config} (text : Config.IsText (config.scalar .closing))
    {value : Value} {draft : Draft} (stands : Stands value draft) :
    ∃ next, closing config value = .ok next ∧
      Stands next (draft.map (· ++ literals (config.scalar .closing).chars)) := by
  obtain ⟨s, rfl, renders, blank⟩ := stands
  refine ⟨_, closing_eq text s, _, rfl, ?_, ?_⟩
  · have whole := renders.append_reads (reads_escaped (config.scalar .closing).chars)
    simpa using whole
  · have part := escaped_eq_empty_iff (config.scalar .closing).chars
    cases draft with
    | error cause => simp_all [Except.map]
    | ok row => simp_all [Except.map]

/-- A list of allowed words is written in the place of whatever is there. -/
theorem allowedWords_eq {config : Config} (literal : config.IsLiteral)
    (listed : config.list .allowedWords ≠ []) :
    ∃ text : String, Fills text.toList
        ((config.words .allowedWords).map fun word => .sequence (literals word)) ∧
      ∀ value, allowedWords config value = .ok (.text ("(?:" ++ text ++ ")")) := by
  obtain ⟨text, built, fills⟩ :=
    fills_alternation listed (literal.words .allowedWords (by decide))
  obtain ⟨word, words, given⟩ := List.exists_cons_of_ne_nil listed
  refine ⟨text, fills, fun value => ?_⟩
  rw [given] at built
  rw [allowedWords, given]
  dsimp only
  rw [built]
  rfl

/-- A list of disallowed words is written before whatever is there. -/
theorem disallowedWords_eq {config : Config} (literal : config.IsLiteral)
    (listed : config.list .disallowedWords ≠ []) :
    ∃ text : String, Fills text.toList
        ((config.words .disallowedWords).map fun word => .sequence (literals word)) ∧
      ∀ s, disallowedWords config (.text s) =
        .ok (.text ("(?!.*(?:" ++ text ++ "))" ++ anything ++ s)) := by
  obtain ⟨text, built, fills⟩ :=
    fills_alternation listed (literal.words .disallowedWords (by decide))
  obtain ⟨word, words, given⟩ := List.exists_cons_of_ne_nil listed
  refine ⟨text, fills, fun s => ?_⟩
  rw [given] at built
  rw [disallowedWords, given]
  dsimp only
  rw [built]
  rfl

theorem allowedWords_of_eq_nil {config : Config} (unlisted : config.list .allowedWords = [])
    (value : Value) : allowedWords config value = .ok value := by
  rw [allowedWords, unlisted]

theorem disallowedWords_of_eq_nil {config : Config} (unlisted : config.list .disallowedWords = [])
    (value : Value) : disallowedWords config value = .ok value := by
  rw [disallowedWords, unlisted]

theorem allowedWords_stands {config : Config} (literal : config.IsLiteral) {value : Value}
    {draft : Draft} (stands : Stands value draft) :
    ∃ next, allowedWords config value = .ok next ∧
      Stands next (onlyWords draft (config.words .allowedWords)) := by
  by_cases unlisted : config.list .allowedWords = []
  · refine ⟨value, allowedWords_of_eq_nil unlisted value, ?_⟩
    rw [Config.words, unlisted]
    exact stands
  · obtain ⟨text, fills, built⟩ := allowedWords_eq literal unlisted
    rw [onlyWords_of_ne_nil (mt Config.words_eq_nil_iff.mp unlisted)]
    refine ⟨_, built value, _, rfl, ?_, by simp⟩
    have group := (fills.readsAtom_group marks_plain).reads
    simpa [Renders, anyWord] using group

theorem disallowedWords_stands {config : Config} (literal : config.IsLiteral) {value : Value}
    {draft : Draft} (stands : Stands value draft) :
    ∃ next, disallowedWords config value = .ok next ∧
      Stands next (draft.map (withoutWords (config.words .disallowedWords) ++ ·)) := by
  by_cases unlisted : config.list .disallowedWords = []
  · refine ⟨value, disallowedWords_of_eq_nil unlisted value, ?_⟩
    rw [Config.words, unlisted]
    cases draft <;> simpa [withoutWords, Except.map] using stands
  · obtain ⟨s, rfl, renders, -⟩ := stands
    obtain ⟨text, fills, built⟩ := disallowedWords_eq literal unlisted
    rw [withoutWords_of_ne_nil (mt Config.words_eq_nil_iff.mp unlisted)]
    -- The alternatives are a group inside the condition, behind any text.
    have group := (fills.readsAtom_group marks_plain).reads
    have inside := (reads_anything.append group).fills
    have ahead := (inside.readsAtom_group (marks_ahead (.inr ⟨rfl, rfl⟩))).reads
    have before := ahead.append reads_anything
    refine ⟨_, built s, _, rfl, ?_, ?_⟩
    · have whole := before.append_renders renders
      simpa [anyWord, anything, Node.anyOf, Node.alternatives] using whole
    · cases draft <;> simp [Except.map]

/-- What the stages draw, between the anchors of the whole text. -/
def drawn (config : Config) : Draft :=
  (draw config).map fun row => .anchor .lineStart :: (row ++ [.anchor .lineEnd])

end Pipeline

end Patternwright
