import Mathlib
import Patternwright.Proofs.CommandLine.Action
import Patternwright.Proofs.CommandLine.Writing
import Patternwright.Proofs.Text.SampleFile

/-!
# Tests of samples

A test writes a line for each sample, and if something is expected of the samples, a last line with
the count of those that do it. The exit code agrees with this line: it is one just if the count falls
short.

The program counts the samples that fail, one after the other. What it has counted so far is what
the samples so far fall short of.

## Main definitions

* `Meets`, `meeting` — a sample does what is expected of it, and how many of some samples do
* `IsTally` — lines and a count are those of some samples
* `IsGathered` — the samples that settings give

## Main results

* `IsTally.add`, `isTally_foldl` — what one more sample does to a tally, and what all samples make
* `run_of_test` — the report of a test
-/

namespace Patternwright.CommandLine

/-! ### Tallies -/

/-- A sample does what is expected of it. -/
def Meets (matcher : Matcher) (verdict : Verdict) (sample : String) : Prop :=
  matcher.accepts sample = true ↔ verdict = .accept

instance (matcher : Matcher) (verdict : Verdict) (sample : String) :
    Decidable (Meets matcher verdict sample) := inferInstanceAs (Decidable (_ ↔ _))

/-- How many samples do what is expected of them. -/
def meeting (matcher : Matcher) (verdict : Verdict) (samples : List String) : Nat :=
  samples.countP fun sample => Meets matcher verdict sample

/-- What a test writes about a sample. -/
def entry (matcher : Matcher) (sample : String) : String :=
  sampleLine (matcher.accepts sample) sample

/-- A tally is that of some samples: it has an entry for each of them, and the failures are what the
samples that do what is expected fall short of. -/
structure IsTally (matcher : Matcher) (expected? : Option Verdict) (samples : List String)
    (tally : Tally) : Prop where
  lines : tally.lines = samples.map (entry matcher)
  unexpected : expected? = none → tally.failures = 0
  expected : ∀ verdict, expected? = some verdict →
    meeting matcher verdict samples + tally.failures = samples.length

section Tally

variable {matcher : Matcher} {expected? : Option Verdict} {earlier : List String} {tally : Tally}

theorem isTally_nil : IsTally matcher expected? [] ⟨[], 0⟩ :=
  ⟨rfl, fun _ => rfl, fun _ _ => rfl⟩

theorem bne_verdict_iff (verdict : Verdict) (sample : String) :
    (matcher.accepts sample != (verdict == .accept)) = true ↔ ¬ Meets matcher verdict sample := by
  cases verdict <;> cases accepted : matcher.accepts sample <;> simp [Meets, accepted]

/-- One more sample is one more entry, and a failure if it does not do what is expected of it. -/
theorem IsTally.add (isTally : IsTally matcher expected? earlier tally) (sample : String) :
    IsTally matcher expected? (earlier ++ [sample]) (tally.add matcher expected? sample) where
  lines := by simp [Tally.add, isTally.lines, entry]
  unexpected none' := by
    subst none'
    simp [Tally.add, isTally.unexpected rfl]
  expected verdict given := by
    have before := isTally.expected verdict given
    subst given
    rw [meeting] at before ⊢
    rw [List.countP_append, List.length_append, List.countP_singleton, List.length_singleton,
      Tally.add]
    simp only [Option.any_some, bne_verdict_iff, decide_eq_true_eq]
    -- The sample is counted either as one that meets the verdict or as a failure.
    by_cases meets : Meets matcher verdict sample
    · simp only [meets, not_true, if_true, if_false]
      omega
    · simp only [meets, not_false_iff, if_true, if_false]
      omega

/-- All samples make their tally. -/
theorem isTally_foldl (isTally : IsTally matcher expected? earlier tally) (samples : List String) :
    IsTally matcher expected? (earlier ++ samples)
      (samples.foldl (Tally.add matcher expected?) tally) := by
  induction samples generalizing earlier tally with
  | nil => simpa using isTally
  | cons sample samples ih => simpa using ih (isTally.add sample)

end Tally

/-! ### Reports -/

/-- The line behind the entries of a test, if something is expected of the samples. -/
def summary (matcher : Matcher) (samples : List String) : Option Verdict → List String
  | none => []
  | some verdict =>
    [toString (meeting matcher verdict samples) ++ " of " ++ toString samples.length ++
      " as expected"]

/-- Something is expected of samples that some do not do. -/
def FallsShort (matcher : Matcher) (expected? : Option Verdict) (samples : List String) : Prop :=
  ∃ verdict, expected? = some verdict ∧ meeting matcher verdict samples < samples.length

/-- The samples of settings: single ones, and behind them those of the file that is named. -/
def IsGathered (world : World) (settings : List Setting) (samples : List String) : Prop :=
  match samplesFile? settings with
  | some path =>
    ∃ held, world.files.readSamples path = .ok held ∧ samples = singleSamples settings ++ held
  | none => samples = singleSamples settings

section Reports

variable {world : World} {settings : List Setting} {samples : List String} {matcher : Matcher}
  {config : Config}

theorem judge_eq (matcher : Matcher) (expected? : Option Verdict) (samples : List String) :
    (judge matcher expected? samples).1 =
        samples.map (entry matcher) ++ summary matcher samples expected? ∧
      ((judge matcher expected? samples).2 = 1 ∧ FallsShort matcher expected? samples ∨
        (judge matcher expected? samples).2 = 0 ∧ ¬ FallsShort matcher expected? samples) := by
  have isTally : IsTally matcher expected? samples
      (samples.foldl (Tally.add matcher expected?) ⟨[], 0⟩) := isTally_foldl isTally_nil samples
  unfold judge
  generalize samples.foldl (Tally.add matcher expected?) ⟨[], 0⟩ = tally at isTally
  cases expected? with
  | none => simp [isTally.lines, isTally.unexpected rfl, summary, FallsShort]
  | some verdict =>
    have counted := isTally.expected verdict rfl
    -- The last line is made from the failures, which are never more than the samples.
    have count : samples.length - tally.failures = meeting matcher verdict samples := by omega
    refine ⟨by simp only [isTally.lines, count, summary], ?_⟩
    by_cases none' : tally.failures = 0
    · refine .inr ⟨if_pos none', ?_⟩
      rintro ⟨_, ⟨⟩, short⟩
      omega
    · exact .inl ⟨if_neg none', verdict, rfl, by omega⟩

theorem samplesOf_eq (gathered : IsGathered world settings samples) :
    samplesOf world settings = .ok samples := by
  rw [IsGathered] at gathered
  rw [samplesOf]
  cases named : samplesFile? settings with
  | none =>
    rw [named] at gathered
    exact congrArg Except.ok gathered.symm
  | some path =>
    rw [named] at gathered
    obtain ⟨held, read, rfl⟩ := gathered
    simp only [read]
    rfl

/-- A text that ends with a line feed is written as it is. -/
theorem closeLine_append (text : String) : closeLine (text ++ "\n") = text ++ "\n" := by
  have ends : (text ++ "\n").endsWith "\n" = true :=
    String.Slice.endsWith_string_iff.mpr (by simp)
  rw [closeLine, if_pos ends]

theorem executeTest_eq (configured : configOf world settings = .ok config)
    (compiled : Matcher.ofConfig config = .ok matcher)
    (gathered : IsGathered world settings samples) :
    executeTest settings (.start world) =
      .ok (judge matcher (expectedOf? settings) samples).2
        ⟨world, "\n".intercalate (judge matcher (expectedOf? settings) samples).1 ++ "\n",
          Journal.ofCompile config⟩ := by
  let left : Effects := ⟨world, "", Journal.ofCompile config⟩
  have compile : Action.compile config (.start world) = .ok matcher left :=
    Action.compile_of_ok _ compiled
  have gather : Action.gather settings left = .ok samples left :=
    Action.gather_of_ok _ (samplesOf_eq gathered)
  rw [executeTest, Action.bind_of_ok (Action.configure_of_ok (.start world) configured),
    Action.bind_of_ok compile, Action.bind_of_ok gather]
  generalize judge matcher (expectedOf? settings) samples = judged
  obtain ⟨lines, code⟩ := judged
  refine (Action.bind_of_ok (Action.write_standardStream _ left)).trans ?_
  rw [closeLine_append, String.empty_append]
  rfl

/-- A test of a configuration that has a matcher writes an entry for each sample, in their order, and
behind them how many do what is expected; it returns one just if these are not all. -/
theorem run_of_test {line : List String} {request : Request} (parsed : parse line = .ok request)
    (test : request.command = .test) (configured : configOf world request.settings = .ok config)
    (compiled : Matcher.ofConfig config = .ok matcher)
    (gathered : IsGathered world request.settings samples) :
    ∃ code, (run world line).ending = .returned code ∧
      (run world line).output = "\n".intercalate (samples.map (entry matcher) ++
        summary matcher samples (expectedOf? request.settings)) ++ "\n" ∧
      (run world line).files = world.files ∧
      (code = 1 ∧ FallsShort matcher (expectedOf? request.settings) samples ∨
        code = 0 ∧ ¬ FallsShort matcher (expectedOf? request.settings) samples) := by
  obtain ⟨lines, code⟩ := judge_eq matcher (expectedOf? request.settings) samples
  have executed : execute request (.start world) =
      executeTest request.settings (.start world) := by
    rw [execute, test]
  refine ⟨(judge matcher (expectedOf? request.settings) samples).2, ?_, ?_, ?_, code⟩
  all_goals
    rw [run, parsed]
    simp only [answer, executed, executeTest_eq configured compiled gathered, lines,
      Effects.report]

end Reports

/-- A file with one sample. -/
def sampledWorld : World := ⟨[("c", Encoding.encode "a\n".toList)], ""⟩

/-- A pattern, samples of both kinds, one of them on two lines, and what is expected of them. -/
def sampledSettings : List Setting :=
  [.textField .custom "a+", .sample "aa", .sample "b\na", .samples "c", .expect .accept]

theorem isGathered_sampled : IsGathered sampledWorld sampledSettings ["aa", "b\na", "a"] := by
  have content : sampledWorld.files.read "c" = .ok (Encoding.encode "a\n".toList) :=
    Directory.read_put (Directory.locate_single []) _
  exact ⟨["a"], Directory.readSamples_eq content, rfl⟩

theorem parse_sampled :
    parse ["test", "--custom=a+", "--sample=aa", "--sample=b\na", "--samples=c",
      "--expect=match"] = .ok ⟨false, .test, sampledSettings⟩ := by
  have test : Command.test ≠ .shapes := nofun
  have sample (text : String) : Means .test ["--sample=" ++ text] [.sample text] := by
    have own : IsOwn .test ⟨["-s", "--sample"], textValue .sample⟩ "--sample" :=
      ⟨by decide, by decide, by decide, rfl, by decide⟩
    exact means_attached own rfl rfl rfl
  have samples (path : String) : Means .test ["--samples=" ++ path] [.samples path] := by
    have own : IsOwn .test ⟨["--samples"], textValue .samples⟩ "--samples" :=
      ⟨by decide, by decide, by decide, rfl, by decide⟩
    exact means_attached own rfl rfl rfl
  have expected : Means .test ["--expect" ++ "=" ++ "match"] [.expect .accept] := by
    have own : IsOwn .test ⟨["--expect"], choiceValue
        [("match", Verdict.accept), ("reject", Verdict.reject)] .expect⟩ "--expect" :=
      ⟨by decide, by decide, by decide, rfl, by decide⟩
    exact means_attached own rfl rfl rfl
  have custom := means_text test (show Scalar.custom.kind = .text from rfl) "a+"
  exact parse_of_means (custom.append ((sample "aa").append
    ((sample "b\na").append ((samples "c").append expected))))

/-- The configuration of the pattern has a matcher, and one of the samples does not match. -/
theorem exists_ofConfig_sampled :
    ∃ config matcher, configOf sampledWorld sampledSettings = .ok config ∧
      Matcher.ofConfig config = .ok matcher ∧ matcher.accepts "aa" = true ∧
      matcher.accepts "b\na" = false ∧ matcher.accepts "a" = true := by
  let config := Config.default.overlayScalars [(.scalar .custom, .text "a+")]
  have tested : ((Matcher.ofConfig config).toOption.map fun matcher =>
      (matcher.accepts "aa", matcher.accepts "b\na", matcher.accepts "a")) =
        some (true, false, true) := by
    cbv
  obtain ⟨matcher, compiled, each⟩ := Option.map_eq_some_iff.mp tested
  cases built : Matcher.ofConfig config with
  | error error => simp [built, Except.toOption] at compiled
  | ok other =>
    simp only [built, Except.toOption, Option.some.injEq] at compiled
    subst compiled
    simp only [Prod.mk.injEq] at each
    exact ⟨config, other, rfl, built, each⟩

theorem run_of_test_sampled :
    parse ["test", "--custom=a+", "--sample=aa", "--sample=b\na", "--samples=c",
        "--expect=match"] = .ok ⟨false, .test, sampledSettings⟩ ∧
      (∃ config matcher, configOf sampledWorld sampledSettings = .ok config ∧
        Matcher.ofConfig config = .ok matcher) ∧
      IsGathered sampledWorld sampledSettings ["aa", "b\na", "a"] ∧
      (run sampledWorld ["test", "--custom=a+", "--sample=aa", "--sample=b\na", "--samples=c",
        "--expect=match"]).ending = .returned 1 ∧
      (run sampledWorld ["test", "--custom=a+", "--sample=aa", "--sample=b\na", "--samples=c",
        "--expect=match"]).output =
          "MATCH\taa\nNO MATCH\tb\na\nMATCH\ta\n2 of 3 as expected\n" := by
  obtain ⟨config, matcher, configured, compiled, long, broken, short⟩ := exists_ofConfig_sampled
  obtain ⟨code, ending, output, _, verdict⟩ :=
    run_of_test parse_sampled rfl configured compiled isGathered_sampled
  have two : meeting matcher .accept ["aa", "b\na", "a"] = 2 := by
    simp [meeting, Meets, long, broken, short]
  have expected : expectedOf? sampledSettings = some .accept := rfl
  have falls : FallsShort matcher (expectedOf? sampledSettings) ["aa", "b\na", "a"] :=
    ⟨.accept, rfl, by rw [two]; decide⟩
  obtain ⟨rfl, _⟩ : code = 1 ∧ _ := verdict.resolve_right fun none' => none'.2 falls
  refine ⟨parse_sampled, ⟨config, matcher, configured, compiled⟩, isGathered_sampled, ending, ?_⟩
  rw [output]
  simp only [List.map_cons, List.map_nil, entry, long, broken, short, expected, summary, two]
  decide +kernel

end Patternwright.CommandLine
