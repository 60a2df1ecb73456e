import Patternwright.Proofs.Pipeline.Law

/-!
# The texts that a configuration accepts

Without a shape, a custom pattern, word lists and bounds of the length, the stages only add to each
other, and the accepted texts can be told without any pattern. A text begins and ends as it is asked
to; what is between falls into pieces, as many as the repetitions allow. A piece has one or more
characters of the switches that are on, or any characters that the dot accepts if none is. Where a
piece begins, the words that the text has to contain are still to come, and those that it must not
contain are not. A line break may end the text on top of all that.

The words that are still to come may lie in later pieces, in the ending or in that line break, and
without any piece no word is asked for.

## Main definitions

* `Pipeline.IsPiece`, `Pipeline.ArePieces` — what is between beginning and ending
* `Pipeline.repetitionBounds` — how many pieces there are
* `Config.IsAccumulating` — no part of the configuration throws away another

## Main results

* `Pipeline.accepts_iff_pieces` — the accepted texts of such a configuration
-/

namespace Patternwright

open Regex

namespace Config

/-- Nothing takes the place of what other fields ask for, and case and lines are as usual. -/
structure IsAccumulating (config : Config) : Prop extends config.IsOrdinary where
  noAllowed : config.list .allowedWords = []
  noDisallowed : config.list .disallowedWords = []
  noMinLength : config.scalar .minLength = .null
  noMaxLength : config.scalar .maxLength = .null
  cased : config.isOn .caseInsensitive = false
  singleLine : config.isOn .multiLine = false

end Config

namespace Pipeline

/-! ### Pieces of a text -/

/-- The word comes somewhere in the text, after nothing but characters that the dot accepts. -/
def Occurs (config : Config) (word text : List Char) : Prop :=
  ∃ skipped, IsDotted config skipped ∧ skipped ++ word <+: text

/-- The ranges of the switch for Arabic characters. -/
def arabicRanges : List (Nat × Nat) :=
  [(0x0600, 0x06FF), (0x0750, 0x077F), (0x08A0, 0x08FF), (0xFB50, 0xFDFF), (0xFE70, 0xFEFF)]

/-- The characters that a switch stands for. -/
def SwitchHolds : Scalar → Char → Prop
  | .digits, c => Unicode.isDecimal c.toNat = true
  | .letters, c => ('a' ≤ c ∧ c ≤ 'z') ∨ ('A' ≤ c ∧ c ≤ 'Z')
  | .whitespace, c => Unicode.isBlank c.toNat = true
  | .special, c => c ∈ specials
  | .arabic, c => ∃ range ∈ arabicRanges, range.1 ≤ c.toNat ∧ c.toNat ≤ range.2
  | _, _ => False

/-- Some switch that is on stands for the character. -/
def InClass (config : Config) (c : Char) : Prop := ∃ part ∈ partsOn config, SwitchHolds part.1 c

/-- What a piece consists of. -/
def IsContent (config : Config) (piece : List Char) : Prop :=
  if partsOn config = [] then IsDotted config piece
  else piece ≠ [] ∧ ∀ c ∈ piece, InClass config c

/-- A piece where `text` is what is left of the text, the piece included. -/
structure IsPiece (config : Config) (text piece : List Char) : Prop where
  content : IsContent config piece
  present : ∀ word ∈ config.words .mustContain, Occurs config word text
  absent : ∀ word ∈ config.words .mustNotContain, ¬ Occurs config word text

/-- Pieces one behind the other, before the rest of the text. -/
def ArePieces (config : Config) : (pieces : List (List Char)) → (rest : List Char) → Prop
  | [], _ => True
  | piece :: pieces, rest =>
    IsPiece config (piece ++ (pieces.flatten ++ rest)) piece ∧ ArePieces config pieces rest

/-- How many pieces there are at least and at most: an exact count goes before bounds, and there is
one piece if nothing is said. -/
def repetitionBounds (config : Config) : Int × Option Int :=
  match repetitionBraces? config with
  | none => (1, some 1)
  | some (.exactly count) => (count, some count)
  | some (.between low high) => (low, high)

/-! ### Laws of the parts -/

section Parts

variable {config : Config}

theorem finds_iff_occurs (cased : config.isOn .caseInsensitive = false) {word text : List Char} :
    Finds config word text ↔ Occurs config word text := by
  have plain : (optionsOf config).ignoreCase = false := cased
  simp only [Finds, Occurs, spells_iff_eq plain]
  constructor
  · rintro ⟨skipped, _, dotted, rfl, ahead⟩
    exact ⟨skipped, dotted, ahead⟩
  · rintro ⟨skipped, dotted, ahead⟩
    exact ⟨skipped, word, dotted, rfl, ahead⟩

/-- The members of a switch hold the characters that it stands for. -/
theorem any_switchItems_iff {part : Scalar × String} (known : part ∈ classParts) (c : Char) :
    (switchItems part.1).any (SetItem.contains (optionsOf config) c.toNat) = true ↔
      SwitchHolds part.1 c := by
  simp only [classParts, List.mem_cons, List.not_mem_nil, or_false] at known
  rcases known with rfl | rfl | rfl | rfl | rfl
  · simp [switchItems, SetItem.contains, Category.contains, SwitchHolds, MatchOptions.toOptions]
  · simp [switchItems, SetItem.contains, SwitchHolds, Char.le_def, UInt32.le_iff_toNat_le]
  · simp [switchItems, SetItem.contains, Category.contains, SwitchHolds, MatchOptions.toOptions]
  · simp [switchItems, SetItem.contains, SwitchHolds, Char.toNat_inj]
  · simp [switchItems, SetItem.contains, SwitchHolds, arabicRanges]

theorem accepts_class_iff (cased : config.isOn .caseInsensitive = false) (c : Char) :
    (CharTest.set false (classItems config)).accepts (optionsOf config) c = true ↔
      InClass config c := by
  have plain : (optionsOf config).ignoreCase = false := cased
  simp only [CharTest.accepts, setContains, plain, Bool.false_and, Bool.false_eq_true, ↓reduceIte,
    Bool.bne_false, classItems, List.any_flatMap, List.any_eq_true, InClass]
  constructor
  · rintro ⟨part, on, item, member, holds⟩
    have known := (List.mem_filter.mp on).1
    have some' := List.any_eq_true.mpr ⟨item, member, holds⟩
    exact ⟨part, on, (any_switchItems_iff known c).mp some'⟩
  · rintro ⟨part, on, holds⟩
    have known := (List.mem_filter.mp on).1
    exact ⟨part, on, List.any_eq_true.mp ((any_switchItems_iff known c).mpr holds)⟩

theorem contentLaw_iff (cased : config.isOn .caseInsensitive = false) {s : State}
    {piece : List Char} : contentLaw config s piece ↔ IsContent config piece := by
  simp only [contentLaw, IsContent, accepts_class_iff cased]

theorem pieceLaw_iff (cased : config.isOn .caseInsensitive = false) {s : State}
    {piece : List Char} : pieceLaw config s piece ↔ IsPiece config s.after piece := by
  simp only [pieceLaw, contentLaw_iff cased, finds_iff_occurs cased]
  exact ⟨fun ⟨content, present, absent⟩ => ⟨content, present, absent⟩,
    fun ⟨content, present, absent⟩ => ⟨content, present, absent⟩⟩

/-- A piece is what the stages draw for it. -/
theorem obeys_piece (cased : config.isOn .caseInsensitive = false) :
    (Node.sequence (pieceRow config)).Obeys (optionsOf config) fun s piece =>
      IsPiece config s.after piece :=
  obeys_pieceRow.congr fun _ _ _ => pieceLaw_iff cased

/-- Pieces from a place on are pieces of the text that is left there. -/
theorem pieces_iff (pieces : List (List Char)) (rest : List Char) : ∀ s : State,
    s.after = pieces.flatten ++ rest →
      (Pieces (fun s piece => IsPiece config s.after piece) s pieces ↔
        ArePieces config pieces rest) := by
  -- What is left after a piece begins with the next one.
  induction pieces with
  | nil => exact fun _ _ => Iff.rfl
  | cons piece pieces ih =>
    intro s split
    rw [List.flatten_cons, List.append_assoc] at split
    rw [Pieces, ArePieces, split, ih _ (State.advance_after split)]

/-- What repetitions make of the row of a piece. -/
def bodyRow (config : Config) : List Node :=
  match repetitionBraces? config with
  | none => pieceRow config
  | some braces =>
    [.rep .greedy braces.bounds.least braces.bounds.most (.sequence (pieceRow config))]

theorem bounds_of_repetitionBounds {braces : Braces}
    (given : repetitionBraces? config = some braces) {low : Nat} {high : Option Nat}
    (bounds : repetitionBounds config = ((low : Int), high.map Int.ofNat)) :
    braces.bounds = ⟨low, high⟩ ∧ braces.isQuantifier = true := by
  rw [repetitionBounds, given] at bounds
  cases braces with
  | exactly count =>
    obtain ⟨rfl, same⟩ := Prod.mk.inj bounds
    cases high with
    | none => simp at same
    | some high =>
      obtain rfl : low = high := Int.ofNat.inj (Option.some.inj same)
      exact ⟨rfl, by simp [Braces.isQuantifier, Braces.counts]⟩
  | between least most =>
    obtain ⟨rfl, rfl⟩ := Prod.mk.inj bounds
    cases high with
    | none => exact ⟨rfl, by simp [Braces.isQuantifier, Braces.counts]⟩
    | some high => exact ⟨rfl, by simp [Braces.isQuantifier, Braces.counts]⟩

theorem obeys_body (cased : config.isOn .caseInsensitive = false) {low : Nat} {high : Option Nat}
    (bounds : repetitionBounds config = ((low : Int), high.map Int.ofNat))
    (ordered : ∀ limit, high = some limit → low ≤ limit) :
    (Node.sequence (bodyRow config)).Obeys (optionsOf config) fun s word =>
      ∃ pieces, word = pieces.flatten ∧ low ≤ pieces.length ∧
        (∀ limit, high = some limit → pieces.length ≤ limit) ∧
        Pieces (fun s piece => IsPiece config s.after piece) s pieces := by
  rw [bodyRow]
  cases braces : repetitionBraces? config with
  | none =>
    -- Nothing is repeated: there is one piece.
    rw [repetitionBounds, braces] at bounds
    obtain ⟨least, most⟩ := Prod.mk.inj bounds
    obtain rfl : low = 1 := (Int.ofNat.inj least).symm
    obtain rfl : high = some 1 := by
      cases high with
      | none => simp at most
      | some high => exact congrArg some (Int.ofNat.inj (Option.some.inj most)).symm
    refine (obeys_piece cased).congr fun s word _ => ?_
    exact Iff.trans (by simp) (exists_single_iff (word = ·))
  | some braces =>
    obtain ⟨counts, -⟩ := bounds_of_repetitionBounds braces bounds
    dsimp only
    rw [counts]
    exact obeys_rep (obeys_piece cased) ordered

end Parts

/-- What the stages draw where nothing is thrown away and the bounds can be used. -/
theorem drawn_eq {config : Config} (accumulating : config.IsAccumulating) {low : Nat}
    {high : Option Nat} (bounds : repetitionBounds config = ((low : Int), high.map Int.ofNat))
    (lowFits : low < countLimit)
    (highFits : ∀ limit, high = some limit → low ≤ limit ∧ limit < countLimit) :
    drawn config = .ok (.anchor .lineStart ::
      (literals (config.scalar .opening).chars ++ bodyRow config ++
        literals (config.scalar .closing).chars ++ [.anchor .lineEnd])) := by
  have repeated : Stage.repetitions.draw config (.ok (pieceRow config)) =
      .ok (bodyRow config) := by
    rw [Stage.draw, bodyRow]
    cases given : repetitionBraces? config with
    | none => rfl
    | some braces =>
      obtain ⟨counts, quantifier⟩ := bounds_of_repetitionBounds given bounds
      -- Bounds that fit and are in order are no fault of the braces.
      have usable : braces.bounds.fault? = none :=
        counts ▸ Bounds.fault?_eq_none lowFits highFits
      change braces.repeated (.sequence (pieceRow config)) = _
      rw [Braces.repeated, if_pos quantifier, usable]
  have unbounded : lengthBraces? config = none := by
    rw [lengthBraces?, Config.count?, Config.count?, accumulating.noMinLength,
      accumulating.noMaxLength]
    rfl
  have noAllowed : config.words .allowedWords = [] := by
    rw [Config.words, accumulating.noAllowed]
    rfl
  have noDisallowed : config.words .disallowedWords = [] := by
    rw [Config.words, accumulating.noDisallowed]
    rfl
  have stages : draw config = Stage.words.draw config (Stage.ends.draw config
      (Stage.lengthBounds.draw config (Stage.repetitions.draw config (.ok (pieceRow config))))) :=
    rfl
  rw [drawn, stages, repeated]
  simp [Stage.draw, unbounded, noAllowed, noDisallowed, onlyWords, withoutWords, Except.map]

/-- Where the drawn row matches: at the start of the text, with nothing or a line break behind. -/
theorem exists_way_iff {config : Config} (accumulating : config.IsAccumulating) {low : Nat}
    {high : Option Nat} (bounds : repetitionBounds config = ((low : Int), high.map Int.ofNat))
    (ordered : ∀ limit, high = some limit → low ≤ limit) (s : State) :
    (∃ t, t ∈ (Node.sequence (.anchor .lineStart ::
        (literals (config.scalar .opening).chars ++ bodyRow config ++
          literals (config.scalar .closing).chars ++ [.anchor .lineEnd]))).ways
        (optionsOf config) s) ↔
      s.before = [] ∧ ∃ pieces final, low ≤ pieces.length ∧
        (∀ limit, high = some limit → pieces.length ≤ limit) ∧ (final = [] ∨ final = ['\n']) ∧
        s.after = (config.scalar .opening).chars ++
          (pieces.flatten ++ ((config.scalar .closing).chars ++ final)) ∧
        ArePieces config pieces ((config.scalar .closing).chars ++ final) := by
  have cased : (optionsOf config).ignoreCase = false := accumulating.cased
  have single : (optionsOf config).multiLine = false := accumulating.singleLine
  -- Between the anchors there are the beginning, the pieces and the ending.
  have obeys := obeys_sequence_append
    (obeys_sequence_append (obeys_literals cased (config.scalar .opening).chars)
      (obeys_body accumulating.cased bounds ordered))
    (obeys_literals cased (config.scalar .closing).chars)
  simp only [mem_ways_lineStart single, mem_ways_lineEnd single]
  constructor
  · rintro ⟨t, before, reached, ended⟩
    obtain ⟨_, ⟨final, split⟩, ⟨_, _, rfl, ⟨_, _, rfl, rfl, pieces, rfl, enough, few, holds⟩, rfl⟩,
      rfl⟩ := (obeys s t).mp reached
    rw [State.IsAtEnd, State.advance_after split.symm] at ended
    have after : s.after = (config.scalar .opening).chars ++
        (pieces.flatten ++ ((config.scalar .closing).chars ++ final)) := by
      simpa using split.symm
    refine ⟨before, pieces, final, enough, few, ended, after, ?_⟩
    exact (pieces_iff pieces _ _ (State.advance_after after)).mp holds
  · rintro ⟨before, pieces, final, enough, few, ended, after, holds⟩
    have inside := (pieces_iff pieces _ _ (State.advance_after after)).mpr holds
    have split : (config.scalar .opening).chars ++ pieces.flatten ++
        (config.scalar .closing).chars ++ final = s.after := by
      simp [after]
    have reached := (obeys s _).mpr ⟨_, ⟨final, split⟩,
      ⟨_, _, rfl, ⟨_, _, rfl, rfl, pieces, rfl, enough, few, inside⟩, rfl⟩, rfl⟩
    refine ⟨_, before, reached, ?_⟩
    rw [State.IsAtEnd, State.advance_after split.symm]
    exact ended

/-- The texts that a configuration accepts: a beginning, pieces and an ending, with or without a
line break behind them. -/
theorem accepts_iff_pieces {config : Config} (accumulating : config.IsAccumulating) {low : Nat}
    {high : Option Nat} (bounds : repetitionBounds config = ((low : Int), high.map Int.ofNat))
    (lowFits : low < countLimit)
    (highFits : ∀ limit, high = some limit → low ≤ limit ∧ limit < countLimit) :
    ∃ matcher, Matcher.ofConfig config = .ok matcher ∧ ∀ text : String,
      matcher.accepts text = true ↔
        ∃ pieces final, low ≤ pieces.length ∧
          (∀ limit, high = some limit → pieces.length ≤ limit) ∧ (final = [] ∨ final = ['\n']) ∧
          text.toList = (config.scalar .opening).chars ++
            (pieces.flatten ++ ((config.scalar .closing).chars ++ final)) ∧
          ArePieces config pieces ((config.scalar .closing).chars ++ final) := by
  obtain ⟨text, -, compiles⟩ := ofConfig_eq accumulating.toIsOrdinary
  rw [drawn_eq accumulating bounds lowFits highFits] at compiles
  refine ⟨_, compiles.2, fun text => ?_⟩
  have ways := exists_way_iff accumulating bounds fun limit given => (highFits limit given).1
  rw [Matcher.accepts, Pattern.accepts_iff]
  simp only [triesAt_of_anchor, true_and, ways]
  -- The search tries all places, but the first anchor holds at the start only.
  constructor
  · rintro ⟨passed, rest, split, before, found⟩
    obtain rfl : passed = [] := List.reverse_eq_nil_iff.mp before
    rw [split]
    exact found
  · intro found
    exact ⟨[], text.toList, rfl, rfl, found⟩

theorem isAccumulating_sample : sample.IsAccumulating :=
  { isOrdinary_sample with
    noAllowed := rfl
    noDisallowed := rfl
    noMinLength := rfl
    noMaxLength := rfl
    cased := rfl
    singleLine := rfl }

theorem accepts_iff_pieces_sample : sample.IsAccumulating ∧
    repetitionBounds sample = (((2 : Nat) : Int), (some 2).map Int.ofNat) ∧
    ∃ matcher, Matcher.ofConfig sample = .ok matcher ∧ ∀ text : String,
      matcher.accepts text = true ↔
        ∃ pieces final, 2 ≤ pieces.length ∧
          (∀ limit, some 2 = some limit → pieces.length ≤ limit) ∧
          (final = [] ∨ final = ['\n']) ∧
          text.toList = (sample.scalar .opening).chars ++
            (pieces.flatten ++ ((sample.scalar .closing).chars ++ final)) ∧
          ArePieces sample pieces ((sample.scalar .closing).chars ++ final) :=
  ⟨isAccumulating_sample, rfl,
    accepts_iff_pieces isAccumulating_sample rfl (by decide) (by simp [countLimit])⟩

end Pipeline

end Patternwright
