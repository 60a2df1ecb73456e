import Patternwright.Proofs.Pipeline.Compile
import Patternwright.Proofs.Regex.Anchoring
import Patternwright.Proofs.Regex.Ways

/-!
# The texts that a custom pattern accepts

A custom pattern takes the place of all that the stages have built, and its text is put between a
caret and a dollar sign as it is. So the two anchors belong to what stands next to them: the first
of the pattern's top alternatives has to begin at the start of the text, the last one has to end at
its end or before a final line break, and alternatives between those two are not tied to either. A
pattern with a single alternative is tied to both.

## Main results

* `Between.exists_way_iff` — where alternatives between anchors match
* `build_custom` — the text of a custom pattern
* `accepts_iff_alternatives` — the texts that a custom pattern accepts
-/

namespace Patternwright.Regex

/-! ### Matching between anchors -/

section Single

variable {options : Options} (single : options.multiLine = false)

include single

/-- Where alternatives between anchors match: the anchors tie the first one and the last one. -/
theorem Between.exists_way_iff {alternatives anchored : List Node}
    (between : Between alternatives anchored) (s : State) :
    (∃ t, t ∈ (Node.anyOf anchored).ways options s) ↔
      ∃ earlier node later, alternatives = earlier ++ node :: later ∧
        (earlier = [] → s.before = []) ∧
        ∃ t, t ∈ node.ways options s ∧ (later = [] → t.IsAtEnd) := by
  cases between with
  -- A single alternative is both the first and the last one.
  | only row =>
    rw [Node.anyOf, Node.alternatives]
    simp only [mem_ways_lineStart single, mem_ways_lineEnd single]
    constructor
    · rintro ⟨t, start, reached, ended⟩
      exact ⟨[], _, [], rfl, fun _ => start, t, reached, fun _ => ended⟩
    · rintro ⟨earlier, node, later, split, start, t, reached, ended⟩
      obtain ⟨rfl, rfl, rfl⟩ : earlier = [] ∧ .sequence row = node ∧ later = [] := by
        cases earlier with
        | nil => simpa using split
        | cons _ _ => simp at split
      exact ⟨t, start rfl, reached, ended rfl⟩
  -- Only the outer ones of several alternatives have an anchor.
  | several first last middle =>
    simp only [Node.anyOf, mem_ways_alternatives, List.mem_cons, List.mem_append,
      List.not_mem_nil, or_false]
    constructor
    · rintro ⟨t, node, rfl | member | rfl, reached⟩
      · rw [mem_ways_lineStart single] at reached
        exact ⟨[], _, _, rfl, fun _ => reached.1, t, reached.2, by simp⟩
      · obtain ⟨before, after, rfl⟩ := List.append_of_mem member
        exact ⟨.sequence first :: before, node, after ++ [.sequence last], by simp, by simp, t,
          reached, by simp⟩
      · rw [mem_ways_lineEnd single] at reached
        exact ⟨.sequence first :: middle, _, [], by simp, by simp, t, reached.1, fun _ => reached.2⟩
    · rintro ⟨earlier, node, later, split, start, t, reached, ended⟩
      cases earlier with
      | nil =>
        obtain ⟨rfl, -⟩ := List.cons.inj split
        exact ⟨t, _, .inl rfl, (mem_ways_lineStart single first s t).mpr ⟨start rfl, reached⟩⟩
      | cons other earlier =>
        obtain ⟨-, split⟩ := List.cons.inj split
        rcases List.eq_nil_or_concat later with rfl | ⟨between, final, rfl⟩
        · obtain ⟨-, final⟩ := List.append_inj' split rfl
          obtain rfl : .sequence last = node := by simpa using final
          exact ⟨t, _, .inr (.inr rfl),
            (mem_ways_lineEnd single last s t).mpr ⟨reached, ended rfl⟩⟩
        · have parts : middle ++ [.sequence last] = (earlier ++ node :: between) ++ [final] := by
            simpa using split
          obtain ⟨rfl, -⟩ := List.append_inj' parts rfl
          exact ⟨t, node, .inr (.inl (by simp)), reached⟩

end Single

/-- The search for alternatives between anchors passes over no place. -/
theorem Between.triesAt {alternatives anchored : List Node}
    (between : Between alternatives anchored) (groupCount : Nat) (options : Options)
    (c? : Option Char) :
    (Pattern.mk (.anyOf anchored) groupCount options).triesAt c? = true := by
  cases between with
  | only row => cases row <;> rfl
  | several first last middle =>
    cases middle <;> rfl

/-- A compiled pattern has been read, and it keeps the options of its own text. -/
theorem Pattern.exists_of_compile {text : String} {options : Options} {pattern : Pattern}
    (compiled : Pattern.compile text options = .ok pattern) :
    ∃ parsed, Parsed.read text.toList = .ok parsed ∧
      pattern = ⟨parsed.node, parsed.groupCount, options.rescope parsed.flags []⟩ := by
  rw [Pattern.compile] at compiled
  cases read : Parsed.read text.toList with
  | error fault => simp [read] at compiled
  | ok parsed =>
    simp only [read, ok_bind] at compiled
    split at compiled
    · cases compiled
    · exact ⟨parsed, rfl, (Except.ok.inj compiled).symm⟩

end Patternwright.Regex

namespace Patternwright.Pipeline

open Regex

/-! ### The text of a custom pattern -/

/-- A stage that writes a custom pattern is the last word. -/
theorem runStages_custom {config : Config} (on : config.isOn .custom = true) (stages : List Stage) :
    ∀ {pattern output : Value}, runStages config (stages ++ [.custom]) pattern = .ok output →
      output = config.scalar .custom := by
  induction stages with
  | nil =>
    rintro pattern _ ⟨⟩
    simp [custom, on]
  | cons stage stages ih =>
    intro pattern output ran
    rw [List.cons_append, runStages] at ran
    cases made : stage.run config pattern with
    | error fault =>
      rw [made] at ran
      cases ran
    | ok middle =>
      rw [made] at ran
      exact ih ran

theorem build_custom {config : Config} {source : String} (unshaped : Shape.select? config = none)
    (custom : config.scalar .custom = .text source) (nonempty : source ≠ "") {matcher : Matcher}
    (compiled : Matcher.ofConfig config = .ok matcher) :
    build config = .ok (none, "^" ++ source ++ "$") := by
  have on : config.isOn .custom = true := by
    simpa [Config.isOn, custom, Value.isTruthy] using nonempty
  -- No stage can have failed, or there would be no matcher.
  cases ran : run config with
  | error fault =>
    rw [Matcher.ofConfig, build, unshaped, ran] at compiled
    cases compiled
  | ok output =>
    have stages : Stage.all = [.characterClass, .lookarounds, .repetitions, .lengthBounds, .ends,
      .words] ++ [.custom] := rfl
    rw [run, stages] at ran
    obtain rfl := runStages_custom on _ ran
    rw [build, unshaped, run, stages, ran, custom]
    rfl

/-- What a custom pattern is compiled to, given what it is compiled to without the anchors. -/
theorem ofConfig_custom {config : Config} {source : String}
    (unshaped : Shape.select? config = none) (custom : config.scalar .custom = .text source)
    (nonempty : source ≠ "") {own : Pattern}
    (alone : Pattern.compile source (MatchOptions.ofConfig config).toOptions = .ok own)
    {matcher : Matcher} (compiled : Matcher.ofConfig config = .ok matcher) :
    own.node = .anyOf (topAlternatives source.toList) ∧
      own.options = (MatchOptions.ofConfig config).toOptions ∧
      ∃ anchored, Between (topAlternatives source.toList) anchored ∧
        matcher.pattern = ⟨.anyOf anchored, own.groupCount, own.options⟩ := by
  obtain ⟨parsed, read, rfl⟩ := Pattern.exists_of_compile alone
  rw [ofConfig_of_build (build_custom unshaped custom nonempty compiled)] at compiled
  split at compiled
  · next pattern made =>
    obtain rfl := Except.ok.inj compiled
    obtain ⟨whole, readWhole, rfl⟩ := Pattern.exists_of_compile made
    have text : ("^" ++ source ++ "$").toList = '^' :: (source.toList ++ ['$']) := by simp
    rw [text] at readWhole
    obtain ⟨node, ⟨fault, stopped⟩ | ⟨flags, anchored, between, whole'⟩⟩ := read_between read
    -- The reader has stopped at options in the middle, against the matcher.
    · rw [readWhole] at stopped
      cases stopped
    · obtain rfl := Except.ok.inj (readWhole.symm.trans whole')
      refine ⟨node, ?_, anchored, between, ?_⟩
      · rw [flags]
        rfl
      · rw [flags]
  · cases compiled

/-- A custom pattern accepts a text in which one of its top alternatives matches, the first one only
at the start and the last one only up to the end. -/
theorem accepts_iff_alternatives {config : Config} {source : String}
    (unshaped : Shape.select? config = none) (custom : config.scalar .custom = .text source)
    (nonempty : source ≠ "") (single : config.isOn .multiLine = false) {own : Pattern}
    (alone : Pattern.compile source (MatchOptions.ofConfig config).toOptions = .ok own)
    {matcher : Matcher} (compiled : Matcher.ofConfig config = .ok matcher) :
    own.node = .anyOf (topAlternatives source.toList) ∧
      own.options = (MatchOptions.ofConfig config).toOptions ∧
      (∀ text : String, matcher.accepts text = true ↔
        ∃ earlier node later passed rest,
          topAlternatives source.toList = earlier ++ node :: later ∧
          text.toList = passed ++ rest ∧ (earlier = [] → passed = []) ∧
          ∃ t ∈ node.ways own.options (.fresh passed.reverse rest own.groupCount),
            later = [] → t.IsAtEnd) ∧
      ((topAlternatives source.toList).length = 1 → ∀ text : String,
        matcher.accepts text = true ↔
          ∃ t ∈ own.node.ways own.options (.fresh [] text.toList own.groupCount), t.IsAtEnd) := by
  obtain ⟨node, options, anchored, between, pattern⟩ :=
    ofConfig_custom unshaped custom nonempty alone compiled
  have single' : own.options.multiLine = false := by
    rw [options]
    exact single
  have accepts (text : String) : matcher.accepts text = true ↔
      ∃ earlier node later passed rest,
        topAlternatives source.toList = earlier ++ node :: later ∧
        text.toList = passed ++ rest ∧ (earlier = [] → passed = []) ∧
        ∃ t ∈ node.ways own.options (.fresh passed.reverse rest own.groupCount),
          later = [] → t.IsAtEnd := by
    rw [Matcher.accepts, pattern, Pattern.accepts_iff]
    simp only [between.triesAt, true_and, between.exists_way_iff single']
    constructor
    · rintro ⟨passed, rest, split, earlier, node, later, parts, start, t, reached, ended⟩
      refine ⟨earlier, node, later, passed, rest, parts, split, fun first => ?_, t, reached, ended⟩
      exact List.reverse_eq_nil_iff.mp (start first)
    · rintro ⟨earlier, node, later, passed, rest, parts, split, start, t, reached, ended⟩
      refine ⟨passed, rest, split, earlier, node, later, parts, fun first => ?_, t, reached, ended⟩
      exact List.reverse_eq_nil_iff.mpr (start first)
  refine ⟨node, options, accepts, fun alone text => ?_⟩
  -- A single alternative is tied to both ends, so there is no other place to begin.
  obtain ⟨only, alternatives⟩ := List.length_eq_one_iff.mp alone
  rw [accepts text, node, alternatives]
  constructor
  · rintro ⟨earlier, node, later, passed, rest, parts, split, start, t, reached, ended⟩
    obtain ⟨rfl, rfl, rfl⟩ : earlier = [] ∧ only = node ∧ later = [] := by
      cases earlier with
      | nil => simpa using parts
      | cons _ _ => simp at parts
    obtain rfl := start rfl
    rw [split]
    exact ⟨t, reached, ended rfl⟩
  · rintro ⟨t, reached, ended⟩
    exact ⟨[], only, [], [], text.toList, rfl, rfl, fun _ => rfl, t, reached, fun _ => ended⟩

/-- A custom pattern of two letters to choose from. -/
def choice : Config := Config.default.setScalar .custom (.text "a|b")

/-- The two letters by themselves. -/
def choicePattern : Pattern := ⟨.alt (.char (.one 97)) (.char (.one 98)), 1, {}⟩

/-- The two letters, each beside one of the anchors. -/
def choiceMatcher : Matcher :=
  ⟨"^a|b$", ⟨.alt (.seq (.anchor .lineStart) (.char (.one 97)))
    (.seq (.char (.one 98)) (.anchor .lineEnd)), 1, {}⟩, MatchOptions.ofConfig choice, none⟩

theorem compile_choice :
    Pattern.compile "a|b" (MatchOptions.ofConfig choice).toOptions = .ok choicePattern := by
  have read : Parsed.read "a|b".toList = .ok ⟨choicePattern.node, [], 1⟩ := by
    simp [Parsed.read, tokenize, readFrames, readPiece, readPlain, Frame.isFullCondition,
      Frame.push, Frame.nextBranch, Frame.body, Frame.alternatives, Frame.branch, Node.anyOf,
      Node.alternatives, Node.sequence, choicePattern]
  rw [Pattern.compile, read]
  rfl

theorem ofConfig_choice : Matcher.ofConfig choice = .ok choiceMatcher := by
  have read : Parsed.read "^a|b$".toList = .ok ⟨choiceMatcher.pattern.node, [], 1⟩ := by
    simp [Parsed.read, tokenize, readFrames, readPiece, readPlain, Frame.isFullCondition,
      Frame.push, Frame.nextBranch, Frame.body, Frame.alternatives, Frame.branch, Node.anyOf,
      Node.alternatives, Node.sequence, choiceMatcher]
  have built : build choice = .ok (none, "^a|b$") := rfl
  rw [ofConfig_of_build built, Pattern.compile, read]
  rfl

theorem accepts_iff_alternatives_choice :
    Shape.select? choice = none ∧ choice.scalar .custom = .text "a|b" ∧ "a|b" ≠ "" ∧
      choice.isOn .multiLine = false ∧
      Pattern.compile "a|b" (MatchOptions.ofConfig choice).toOptions = .ok choicePattern ∧
      Matcher.ofConfig choice = .ok choiceMatcher ∧
      ∀ text : String, choiceMatcher.accepts text = true ↔
        ∃ earlier node later passed rest,
          topAlternatives "a|b".toList = earlier ++ node :: later ∧
          text.toList = passed ++ rest ∧ (earlier = [] → passed = []) ∧
          ∃ t ∈ node.ways choicePattern.options
              (.fresh passed.reverse rest choicePattern.groupCount),
            later = [] → t.IsAtEnd :=
  ⟨rfl, rfl, by decide, rfl, compile_choice, ofConfig_choice,
    (accepts_iff_alternatives rfl rfl (by decide) rfl compile_choice ofConfig_choice).2.2.1⟩

/-- The anchors do not tie a pattern as a whole: the first of two letters may be followed by
anything. -/
theorem not_accepts_iff_whole :
    ¬ ∀ (config : Config) (source : String) (own : Pattern) (matcher : Matcher) (text : String),
      Shape.select? config = none → config.scalar .custom = .text source → source ≠ "" →
      config.isOn .multiLine = false →
      Pattern.compile source (MatchOptions.ofConfig config).toOptions = .ok own →
      Matcher.ofConfig config = .ok matcher →
      (matcher.accepts text = true ↔
        ∃ t ∈ own.node.ways own.options (.fresh [] text.toList own.groupCount), t.IsAtEnd) := by
  intro whole
  have accepted : choiceMatcher.accepts "ax" = true := rfl
  have claimed := whole choice "a|b" choicePattern choiceMatcher "ax" rfl rfl (by decide) rfl
    compile_choice ofConfig_choice
  obtain ⟨t, reached, ended⟩ := claimed.mp accepted
  have first : choicePattern.node.ways choicePattern.options
      (.fresh [] "ax".toList choicePattern.groupCount) =
        [(State.fresh [] ['a', 'x'] 1).advance 1] := rfl
  rw [first] at reached
  obtain rfl := List.mem_singleton.mp reached
  rcases ended with ended | ended <;> cases ended

end Patternwright.Pipeline
