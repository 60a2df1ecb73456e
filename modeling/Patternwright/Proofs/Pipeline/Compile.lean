import Patternwright.Proofs.Pipeline.Parts

/-!
# When a configuration compiles

What the stages draw decides what becomes of a configuration. A row of parts is the tree of its
pattern, and no part that a stage adds has a fault of its own, so the row compiles. Without a row
the pattern is refused, and the cause lies in one pair of braces: those that no later stage throws
away.

## Main definitions

* `Pipeline.activeInner?`, `Pipeline.activeBraces?` — the braces that are still there in the end
* `Braces.IsTooLarge`, `Braces.IsInverted` — what can be wrong with braces

## Main results

* `Pipeline.ofConfig_outlined` — a configuration compiles to its outline, whatever the bounds are
* `Pipeline.ofConfig_eq` — with counts for bounds, that is the row that its stages draw
* `Pipeline.cause?_outlined` — only the braces that are active can be at fault
* `Pipeline.read_build` — the pattern of a configuration reads as the row between two anchors
* `Pipeline.ofConfig_outcome` — which configurations are refused, and why
-/

namespace Patternwright

open Regex

/-! ### Rows without faults -/

namespace Regex

/-- Nothing is wrong with any part of a row. -/
def IsSound (row : List Node) : Prop := ∀ node ∈ row, node.fault? false = none

theorem isSound_nil : IsSound [] := by simp [IsSound]

theorem isSound_append {row more : List Node} :
    IsSound (row ++ more) ↔ IsSound row ∧ IsSound more := List.forall_mem_append

theorem isSound_cons {node : Node} {row : List Node} :
    IsSound (node :: row) ↔ node.fault? false = none ∧ IsSound row := List.forall_mem_cons

theorem isSound_literals (text : List Char) : IsSound (literals text) := by
  intro node member
  obtain ⟨c, -, rfl⟩ := List.mem_map.mp member
  rfl

theorem fault?_sequence {row : List Node} (sound : IsSound row) :
    (Node.sequence row).fault? false = none := by
  induction row with
  | nil => rfl
  | cons node row ih =>
    obtain ⟨first, later⟩ := isSound_cons.mp sound
    cases row with
    | nil => exact first
    | cons next row => simp [Node.sequence, Node.fault?, first, ih later]

theorem fault?_anyOf {alternatives : List Node} (sound : IsSound alternatives) :
    (Node.anyOf alternatives).fault? false = none := by
  cases alternatives with
  | nil => rfl
  | cons first alternatives =>
    rw [Node.anyOf]
    induction alternatives generalizing first with
    | nil => exact (isSound_cons.mp sound).1
    | cons next alternatives ih =>
      obtain ⟨head, later⟩ := isSound_cons.mp sound
      simp [Node.alternatives, Node.fault?, head, ih next later]

end Regex

namespace Pipeline

/-- No part that the stages add has a fault. -/
theorem admits_sound (config : Config) : Admits config fun node => node.fault? false = none where
  dot := rfl
  literal _ := rfl
  switches := rfl
  lineStart := rfl
  lineEnd := rfl
  sequence _ := fault?_sequence
  anyOf _ := fault?_anyOf
  rep _ _ _ sound := by simpa [Node.fault?] using sound
  present _ sound := sound
  absent word _ :=
    fault?_sequence (isSound_cons.mpr ⟨rfl, isSound_literals word⟩)
  without _ := by
    refine fault?_sequence (isSound_cons.mpr ⟨rfl, isSound_cons.mpr ⟨?_, isSound_nil⟩⟩)
    apply fault?_anyOf
    intro node member
    obtain ⟨word, -, rfl⟩ := List.mem_map.mp member
    exact fault?_sequence (isSound_literals word)

/-! ### Compiling what is drawn -/

/-- What becomes of a pattern's text, if it stands for a draft. -/
def Compiles (config : Config) (text : String) : Draft → Prop
  | .ok row =>
    Parsed.read text.toList = .ok ⟨.sequence row, [], 1⟩ ∧
      Matcher.ofConfig config = .ok
        ⟨text, ⟨.sequence row, 1, (MatchOptions.ofConfig config).toOptions⟩,
          MatchOptions.ofConfig config, none⟩
  | .error cause => ∃ place, Matcher.ofConfig config = .error (.pattern text ⟨cause, place⟩)

theorem ofConfig_of_build {config : Config} {shape? : Option Shape} {text : String}
    (built : build config = .ok (shape?, text)) :
    Matcher.ofConfig config =
      match Pattern.compile text (MatchOptions.ofConfig config).toOptions with
      | .ok pattern => .ok ⟨text, pattern, MatchOptions.ofConfig config, shape?⟩
      | .error fault => .error (.pattern text fault) := by
  rw [Matcher.ofConfig, built]
  rfl

theorem build_of_shape {config : Config} {shape : Shape} {text : String}
    (shaped : Shape.select? config = some shape) (pattern : shape.pattern config = .ok text) :
    build config = .ok (some shape, text) := by
  rw [build, shaped]
  change (do return (some shape, ← shape.pattern config)) = _
  rw [pattern]
  rfl

/-- A text that reads as a tree compiles to it, unless the tree has a fault. -/
theorem compile_of_read {text : String} {node : Node} {groupCount : Nat}
    (read : Parsed.read text.toList = .ok ⟨node, [], groupCount⟩) (options : Options) :
    Pattern.compile text options =
      match node.fault? false with
      | some cause => .error { cause }
      | none => .ok ⟨node, groupCount, options⟩ := by
  rw [Pattern.compile, read]
  rfl

theorem compile_of_reads {text : String} {row : List Node} (reads : Reads text.toList row)
    (sound : IsSound row) (options : Options) :
    Pattern.compile text options = .ok ⟨.sequence row, 1, options⟩ := by
  rw [compile_of_read reads.read_eq, fault?_sequence sound]

/-- The pattern of a configuration compiles to its outline, or it is refused for the cause that
there is none. -/
theorem ofConfig_outlined {config : Config} (general : config.IsGeneral)
    (bounds : config.HasBounds) (written : config.IsWritten) :
    ∃ text, build config = .ok (none, text) ∧ Compiles config text (outlined config) := by
  obtain ⟨text, built, renders⟩ := build_renders general bounds written
  refine ⟨text, built, ?_⟩
  have sound := (admits_sound config).all_outlined
  cases drew : outlined config with
  | ok row =>
    rw [drew] at renders sound
    refine ⟨Reads.read_eq renders, ?_⟩
    rw [ofConfig_of_build built, compile_of_reads renders (Draft.all_ok.mp sound)]
  | error cause =>
    rw [drew] at renders
    obtain ⟨place, refused⟩ := Refuses.read_eq renders
    refine ⟨place, ?_⟩
    rw [ofConfig_of_build built]
    simp [Pattern.compile, refused]

/-- A configuration that compiles has bounds that can be written. -/
theorem isWritten_of_ofConfig {config : Config} (unshaped : Shape.select? config = none)
    {matcher : Matcher} (compiled : Matcher.ofConfig config = .ok matcher) : config.IsWritten := by
  obtain ⟨built, succeeds, -⟩ := bind_eq_ok_iff.mp compiled
  exact isWritten_of_build unshaped succeeds

/-- A configuration that compiles has an outline, which its pattern reads as between two anchors. -/
theorem exists_outline {config : Config} (general : config.IsGeneral) (bounds : config.HasBounds)
    {matcher : Matcher} (compiled : Matcher.ofConfig config = .ok matcher) :
    ∃ text row, build config = .ok (none, text) ∧ outline config = .ok row ∧
      Parsed.read text.toList =
        .ok ⟨.sequence (.anchor .lineStart :: (row ++ [.anchor .lineEnd])), [], 1⟩ ∧
      matcher.pattern = ⟨.sequence (.anchor .lineStart :: (row ++ [.anchor .lineEnd])), 1,
        (MatchOptions.ofConfig config).toOptions⟩ := by
  obtain ⟨text, built, compiles⟩ :=
    ofConfig_outlined general bounds (isWritten_of_ofConfig general.unshaped compiled)
  rw [outlined] at compiles
  cases drew : outline config with
  | error cause =>
    rw [drew] at compiles
    obtain ⟨place, refused⟩ := compiles
    simp [compiled] at refused
  | ok row =>
    rw [drew] at compiles
    obtain rfl := Except.ok.inj (compiled.symm.trans compiles.2)
    exact ⟨text, row, built, rfl, compiles.1, rfl⟩

/-- With counts for bounds, the pattern of a configuration compiles to what the stages draw. -/
theorem ofConfig_eq {config : Config} (ordinary : config.IsOrdinary) :
    ∃ text, build config = .ok (none, text) ∧ Compiles config text (drawn config) := by
  rw [← outlined_eq_drawn ordinary]
  exact ofConfig_outlined ordinary.isGeneral ordinary.hasBounds ordinary.isWritten

/-- The pattern of a configuration that compiles is read as what its stages draw, between an anchor
at the start and one at the end. -/
theorem read_build {config : Config} (ordinary : config.IsOrdinary) {matcher : Matcher}
    (compiled : Matcher.ofConfig config = .ok matcher) :
    ∃ text row, build config = .ok (none, text) ∧ draw config = .ok row ∧
      Parsed.read text.toList =
        .ok ⟨.sequence (.anchor .lineStart :: (row ++ [.anchor .lineEnd])), [], 1⟩ := by
  obtain ⟨text, built, compiles⟩ := ofConfig_eq ordinary
  cases drew : draw config with
  | ok row =>
    have between : drawn config = .ok (.anchor .lineStart :: (row ++ [.anchor .lineEnd])) := by
      rw [drawn, drew]
      rfl
    rw [between] at compiles
    exact ⟨text, row, built, rfl, compiles.1⟩
  | error cause =>
    have between : drawn config = .error cause := by
      rw [drawn, drew]
      rfl
    rw [between] at compiles
    obtain ⟨place, refused⟩ := compiles
    rw [compiled] at refused
    simp at refused

/-- A beginning with a sign in it, a word that is not to come, and a repetition. -/
def sample : Config :=
  ((Config.default.setScalar .opening (.text "a.")).setScalar .exactRepetitions (.int 2)).setList
    .mustNotContain [.text "(?"]

theorem isOrdinary_sample : sample.IsOrdinary where
  unshaped := rfl
  custom := rfl
  opening := .inr ⟨"a.", rfl⟩
  closing := .inl rfl
  words field _ word member := by
    cases field with
    | mustNotContain => exact ⟨"(?", List.mem_singleton.mp member⟩
    | _ => exact (List.not_mem_nil member).elim
  minLength := .inl rfl
  maxLength := .inl rfl
  exactRepetitions := .inr ⟨2, rfl, isShort_of_digit (by decide)⟩
  minRepetitions _ := .inl rfl
  maxRepetitions _ := .inl rfl

theorem read_build_sample : sample.IsOrdinary ∧
    ∃ matcher, Matcher.ofConfig sample = .ok matcher ∧
      ∃ text row, build sample = .ok (none, text) ∧ draw sample = .ok row ∧
        Parsed.read text.toList =
          .ok ⟨.sequence (.anchor .lineStart :: (row ++ [.anchor .lineEnd])), [], 1⟩ := by
  obtain ⟨text, -, compiles⟩ := ofConfig_eq isOrdinary_sample
  have compiled : ∃ matcher, Matcher.ofConfig sample = .ok matcher := ⟨_, compiles.2⟩
  obtain ⟨matcher, compiled⟩ := compiled
  exact ⟨isOrdinary_sample, matcher, compiled, read_build isOrdinary_sample compiled⟩

/-! ### What is refused -/

/-- What stands between the braces that are still there in the end: those for the length go before
those for repetitions, and a list of allowed words throws all of them away. -/
def activeInner? (config : Config) : Option (List Char) :=
  if config.words .allowedWords = [] then (lengthInner? config).or (repetitionInner? config)
  else none

/-- The braces that are still there in the end, if bounds are counts. -/
def activeBraces? (config : Config) : Option Braces :=
  if config.words .allowedWords = [] then (lengthBraces? config).or (repetitionBraces? config)
  else none

end Pipeline

namespace Regex.Braces

/-- What is wrong with braces. -/
def fault? (braces : Braces) : Option Cause :=
  if braces.isQuantifier then braces.bounds.fault? else none

/-- No count is negative, and one is past the largest count. -/
def IsTooLarge (braces : Braces) : Prop :=
  (∀ count ∈ braces.counts, 0 ≤ count) ∧ ∃ count ∈ braces.counts, (countLimit : Int) ≤ count

/-- All counts can be used, but the upper one is below the lower one. -/
def IsInverted (braces : Braces) : Prop :=
  (∀ count ∈ braces.counts, 0 ≤ count ∧ count < countLimit) ∧
    ∃ low high, braces = .between low (some high) ∧ high < low

theorem isQuantifier_iff (braces : Braces) :
    braces.isQuantifier = true ↔ ∀ count ∈ braces.counts, 0 ≤ count := by
  simp [isQuantifier]

theorem exists_tooLarge_iff {braces : Braces} (quantifier : ∀ count ∈ braces.counts, 0 ≤ count) :
    (countLimit ≤ braces.bounds.least ∨ braces.bounds.most.any (countLimit ≤ ·) = true) ↔
      ∃ count ∈ braces.counts, (countLimit : Int) ≤ count := by
  cases braces with
  | exactly count =>
    have nonneg := quantifier count (List.mem_singleton_self count)
    simp only [counts, bounds, Option.any_some, List.mem_singleton, exists_eq_left,
      decide_eq_true_eq, or_self]
    omega
  | between low high =>
    have nonneg := quantifier low List.mem_cons_self
    cases high with
    | none =>
      simp only [counts, bounds, Option.map_none, Option.any_none, Option.toList_none,
        List.mem_singleton, exists_eq_left, Bool.false_eq_true, or_false]
      omega
    | some high =>
      have nonneg' := quantifier high (by simp [counts])
      simp only [counts, bounds, Option.map_some, Option.any_some, Option.toList_some,
        List.mem_cons, List.not_mem_nil, or_false, exists_eq_or_imp, exists_eq_left,
        decide_eq_true_eq]
      omega

theorem exists_inverted_iff {braces : Braces} (quantifier : ∀ count ∈ braces.counts, 0 ≤ count) :
    braces.bounds.most.any (· < braces.bounds.least) = true ↔
      ∃ low high, braces = .between low (some high) ∧ high < low := by
  cases braces with
  | exactly count => simp [bounds]
  | between low high =>
    have nonneg := quantifier low List.mem_cons_self
    cases high with
    | none => simp [bounds]
    | some high =>
      have nonneg' := quantifier high (by simp [counts])
      change decide (high.toNat < low.toNat) = true ↔ _
      simp only [decide_eq_true_eq, between.injEq, Option.some.injEq]
      constructor
      · intro below
        exact ⟨low, high, ⟨rfl, rfl⟩, by omega⟩
      · rintro ⟨_, _, ⟨rfl, rfl⟩, below⟩
        omega

/-- Braces have one of two faults, or none. -/
theorem fault?_cases (braces : Braces) :
    (braces.fault? = some .countTooLarge ∧ braces.IsTooLarge ∧ ¬ braces.IsInverted) ∨
      (braces.fault? = some .leastAboveMost ∧ ¬ braces.IsTooLarge ∧ braces.IsInverted) ∨
      (braces.fault? = none ∧ ¬ braces.IsTooLarge ∧ ¬ braces.IsInverted) := by
  by_cases quantifier : ∀ count ∈ braces.counts, 0 ≤ count
  · have large := exists_tooLarge_iff quantifier
    have inverted := exists_inverted_iff quantifier
    rw [fault?, if_pos (braces.isQuantifier_iff.mpr quantifier), Bounds.fault?]
    -- A count past the largest one is found before the order is looked at.
    by_cases past : ∃ count ∈ braces.counts, (countLimit : Int) ≤ count
    · refine .inl ⟨if_pos (large.mpr past), ⟨quantifier, past⟩, fun usable => ?_⟩
      obtain ⟨count, member, above⟩ := past
      have below := (usable.1 count member).2
      omega
    · rw [if_neg fun found => past (large.mp found)]
      have usable : ∀ count ∈ braces.counts, 0 ≤ count ∧ count < countLimit := by
        intro count member
        refine ⟨quantifier count member, ?_⟩
        by_contra above
        exact past ⟨count, member, by omega⟩
      by_cases below : ∃ low high, braces = .between low (some high) ∧ high < low
      · exact .inr (.inl ⟨if_pos (inverted.mpr below), fun found => past found.2, usable, below⟩)
      · refine .inr (.inr ⟨if_neg fun found => below (inverted.mp found), ?_, ?_⟩)
        · exact fun found => past found.2
        · exact fun found => below found.2
  · refine .inr (.inr ⟨?_, fun found => quantifier found.1, fun found => quantifier ?_⟩)
    · rw [fault?, if_neg fun found => quantifier (braces.isQuantifier_iff.mp found)]
    · exact fun count member => (found.1 count member).1

end Regex.Braces

namespace Pipeline

/-- The cause that a draft has no row. -/
def cause? : Draft → Option Cause
  | .ok _ => none
  | .error cause => some cause

@[simp] theorem cause?_ok (row : List Node) : cause? (.ok row) = none := rfl

@[simp] theorem cause?_map (draft : Draft) (change : List Node → List Node) :
    cause? (draft.map change) = cause? draft := by
  cases draft <;> rfl

/-- Why braces are refused, told from what stands between them. -/
def innerFault? (inner : List Char) : Option Cause :=
  match asked? inner with
  | .ok _ => none
  | .error cause => some cause

@[simp] theorem cause?_counted (inner : List Char) (node : Node) :
    cause? (counted inner node) = innerFault? inner := by
  unfold counted innerFault?
  cases asked? inner <;> rfl

theorem innerFault?_body {braces : Braces} (short : braces.IsShort) :
    innerFault? braces.body = braces.fault? := by
  rw [← cause?_counted braces.body .empty, ← Braces.repeated_eq_counted short, Braces.repeated,
    Braces.fault?]
  cases braces.isQuantifier with
  | false => rfl
  | true => cases braces.bounds.fault? <;> rfl

/-- Only the braces that are active can be at fault. -/
theorem cause?_outlined (config : Config) :
    cause? (outlined config) = (activeInner? config).bind innerFault? := by
  -- The first two stages always leave a row, so the braces for repetitions have one to repeat.
  obtain ⟨row, start⟩ : ∃ row, Stage.lookarounds.draw config
      (Stage.characterClass.draw config (.ok [])) = .ok row := ⟨_, rfl⟩
  have stages : outline config = Stage.words.draw config (Stage.ends.draw config
      (Stage.lengthBounds.outline config (Stage.repetitions.outline config (.ok row)))) := by
    rw [← start]
    rfl
  have repeated : cause? (Stage.repetitions.outline config (.ok row)) =
      (repetitionInner? config).bind innerFault? := by
    rw [Stage.outline]
    cases repetitionInner? config with
    | none => rfl
    | some inner => exact cause?_counted inner (.sequence row)
  rw [outlined, cause?_map, stages]
  generalize Stage.repetitions.outline config (.ok row) = draft at repeated
  have bounded : cause? (Stage.lengthBounds.outline config draft) =
      ((lengthInner? config).or (repetitionInner? config)).bind innerFault? := by
    rw [Stage.outline]
    cases lengthInner? config with
    | none => simpa using repeated
    | some inner => simp
  have closed : cause? (Stage.ends.draw config (Stage.lengthBounds.outline config draft)) =
      ((lengthInner? config).or (repetitionInner? config)).bind innerFault? := by
    rw [← bounded]
    exact cause?_map _ _
  generalize Stage.ends.draw config (Stage.lengthBounds.outline config draft) = ended at closed
  rw [Stage.draw, cause?_map, activeInner?]
  cases config.words .allowedWords with
  | nil => simpa [onlyWords] using closed
  | cons word words => simp [onlyWords]

/-- Without a fault in braces, a configuration compiles if its bounds can be written. -/
theorem exists_ofConfig_eq {config : Config} (general : config.IsGeneral)
    (bounds : config.HasBounds) (written : config.IsWritten)
    (usable : (activeInner? config).bind innerFault? = none) :
    ∃ matcher, Matcher.ofConfig config = .ok matcher := by
  obtain ⟨text, -, compiles⟩ := ofConfig_outlined general bounds written
  rw [← cause?_outlined] at usable
  cases drew : outlined config with
  | ok row =>
    rw [drew] at compiles
    exact ⟨_, compiles.2⟩
  | error cause =>
    rw [drew] at usable
    cases usable

theorem isShort_of_activeBraces? {config : Config} (ordinary : config.IsOrdinary) {braces : Braces}
    (given : activeBraces? config = some braces) : braces.IsShort := by
  unfold activeBraces? at given
  split at given
  · rcases Option.or_eq_some_iff.mp given with length | ⟨-, repetition⟩
    · exact isShort_of_lengthBraces? ordinary length
    · exact isShort_of_repetitionBraces? ordinary repetition
  · cases given

/-- Counts are at fault in the braces that are active. -/
theorem cause?_drawn {config : Config} (ordinary : config.IsOrdinary) :
    cause? (drawn config) = (activeBraces? config).bind Braces.fault? := by
  have active : activeInner? config = (activeBraces? config).map Braces.body := by
    rw [activeInner?, activeBraces?, lengthInner?_eq ordinary, repetitionInner?_eq ordinary]
    split
    · cases lengthBraces? config <;> rfl
    · rfl
  rw [← outlined_eq_drawn ordinary, cause?_outlined, active]
  cases given : activeBraces? config with
  | none => rfl
  | some braces => exact innerFault?_body (isShort_of_activeBraces? ordinary given)

/-- Exactly which configurations are refused. A count past the largest one overflows; otherwise
bounds the wrong way round make the pattern ill formed; nothing else is ever refused. -/
theorem ofConfig_outcome {config : Config} (ordinary : config.IsOrdinary) :
    ∃ text, build config = .ok (none, text) ∧
      ((∃ shown fault, Matcher.ofConfig config = .error (.pattern shown fault) ∧
          fault.cause.isOverflow = true) ↔
        ∃ braces, activeBraces? config = some braces ∧ braces.IsTooLarge) ∧
      ((∃ fault, Matcher.ofConfig config = .error (.pattern text fault) ∧
          fault.cause.isOfForm = true) ↔
        ∃ braces, activeBraces? config = some braces ∧ braces.IsInverted) ∧
      ((∃ matcher, Matcher.ofConfig config = .ok matcher) ↔
        ∀ braces, activeBraces? config = some braces →
          ¬ braces.IsTooLarge ∧ ¬ braces.IsInverted) := by
  obtain ⟨text, built, compiles⟩ := ofConfig_eq ordinary
  refine ⟨text, built, ?_⟩
  have cause := cause?_drawn ordinary
  cases active : activeBraces? config with
  | none =>
    rw [active] at cause
    cases drew : drawn config with
    | ok row =>
      rw [drew] at compiles
      simp [compiles.2]
    | error fault => simp [drew, cause?] at cause
  | some braces =>
    rw [active, Option.bind_some] at cause
    -- Braces have one fault or the other or none, and the draft shows which.
    rcases braces.fault?_cases with ⟨fault, large, inverted⟩ | ⟨fault, large, inverted⟩ |
      ⟨fault, large, inverted⟩ <;> rw [fault] at cause <;> cases drew : drawn config <;>
      simp only [drew, cause?, Option.some.injEq, reduceCtorEq] at cause
    · subst cause
      rw [drew] at compiles
      obtain ⟨place, refused⟩ := compiles
      simp [refused, large, inverted, Cause.isOverflow, Cause.isOfForm]
    · subst cause
      rw [drew] at compiles
      obtain ⟨place, refused⟩ := compiles
      simp [refused, large, inverted, Cause.isOverflow, Cause.isOfForm]
    · rw [drew] at compiles
      simp [compiles.2, large, inverted]

theorem ofConfig_outcome_sample : sample.IsOrdinary ∧
    ∃ text, build sample = .ok (none, text) ∧
      ((∃ shown fault, Matcher.ofConfig sample = .error (.pattern shown fault) ∧
          fault.cause.isOverflow = true) ↔
        ∃ braces, activeBraces? sample = some braces ∧ braces.IsTooLarge) ∧
      ((∃ fault, Matcher.ofConfig sample = .error (.pattern text fault) ∧
          fault.cause.isOfForm = true) ↔
        ∃ braces, activeBraces? sample = some braces ∧ braces.IsInverted) ∧
      ((∃ matcher, Matcher.ofConfig sample = .ok matcher) ↔
        ∀ braces, activeBraces? sample = some braces →
          ¬ braces.IsTooLarge ∧ ¬ braces.IsInverted) :=
  ⟨isOrdinary_sample, ofConfig_outcome isOrdinary_sample⟩

end Pipeline

end Patternwright
