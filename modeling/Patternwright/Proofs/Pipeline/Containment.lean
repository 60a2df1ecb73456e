import Patternwright.Proofs.Pipeline.Language

/-!
# What accepted texts contain

The words that a text has to contain, and those that it must not contain, are conditions on what is
still to come. They are asked where a piece begins, and they look as far as the dot reaches. Words
that are not allowed are one more condition, asked where the line begins; behind it any characters
that the dot accepts may come before the beginning.

So an accepted text falls into parts, and the parts say which words were looked for and where. With
no piece at all nothing is asked for. What comes before a piece is not looked at from there, and a
line break ends the search for a word unless the dot accepts it.

Braces with a negative count are no repetition. Their characters have to come behind a single piece.

## Main definitions

* `Config.KeepsPieces` — nothing takes the place of the pieces
* `Pipeline.pieceBounds`, `Pipeline.strayBraces` — how many pieces there are, and what the braces
  leave behind them
* `Pipeline.Splits` — the parts of a text

## Main results

* `Pipeline.accepts_iff_splits` — the accepted texts are those that fall into such parts
* `Pipeline.excluded_of_accepts` — where an accepted text has no excluded word
* `Pipeline.included_of_accepts` — an accepted text has all words asked for, unless it has no piece
-/

namespace Patternwright

open Regex

namespace Config

/-- Neither bounds of the length nor a list of allowed words takes the place of the pieces, and case
counts. -/
structure KeepsPieces (config : Config) : Prop extends config.IsOrdinary where
  noAllowed : config.list .allowedWords = []
  noMinLength : config.scalar .minLength = .null
  noMaxLength : config.scalar .maxLength = .null
  cased : config.isOn .caseInsensitive = false

end Config

namespace Pipeline

/-! ### The parts of a text -/

/-- How many pieces there are: as many as the braces say, or one where they are no quantifier. -/
def pieceBounds (config : Config) : Bounds :=
  match repetitionBraces? config with
  | some braces => if braces.isQuantifier then braces.bounds else ⟨1, some 1⟩
  | none => ⟨1, some 1⟩

/-- The characters of braces that are no quantifier. -/
def strayBraces (config : Config) : List Char :=
  match repetitionBraces? config with
  | some braces => if braces.isQuantifier then [] else braces.text
  | none => []

/-- What comes behind the pieces, up to the end of the text. -/
def behindPieces (config : Config) (rest : List Char) : List Char :=
  strayBraces config ++ ((config.scalar .closing).chars ++ rest)

/-- What comes behind the lead: the beginning, the pieces and all behind them. -/
def behindLead (config : Config) (pieces : List (List Char)) (rest : List Char) : List Char :=
  (config.scalar .opening).chars ++ (pieces.flatten ++ behindPieces config rest)

/-- The parts of an accepted text, in their order: earlier lines, a lead before the beginning, the
pieces behind it, and later lines behind the ending. -/
structure Splits (config : Config) (earlier lead : List Char) (pieces : List (List Char))
    (later : List Char) : Prop where
  starts : StartsLine (optionsOf config) earlier
  ends : EndsLine (optionsOf config) later
  enough : (pieceBounds config).least ≤ pieces.length
  few : ∀ limit, (pieceBounds config).most = some limit → pieces.length ≤ limit
  dotted : IsDotted config lead
  /-- Only words that are not allowed leave room for a lead. -/
  tied : config.words .disallowedWords = [] → lead = []
  clear : ∀ word ∈ config.words .disallowedWords,
    ¬ Occurs config word (lead ++ behindLead config pieces later)
  pieces : ArePieces config pieces (behindPieces config later)

/-! ### Laws of the parts -/

section Parts

variable {config : Config}

theorem leadLaw_iff (cased : config.isOn .caseInsensitive = false) {words : List (List Char)}
    {s : State} {lead : List Char} :
    leadLaw config words s lead ↔ IsDotted config lead ∧ (words = [] → lead = []) ∧
      ∀ word ∈ words, ¬ Occurs config word s.after := by
  simp only [leadLaw, finds_iff_occurs cased]

/-- What the repetitions make of the row of a piece matches pieces and the braces behind them. -/
theorem obeys_repetitions (cased : config.isOn .caseInsensitive = false) {row : List Node}
    (repeated : Stage.repetitions.draw config (.ok (pieceRow config)) = .ok row) :
    (Node.sequence row).Obeys (optionsOf config) fun s word =>
      ∃ pieces, word = pieces.flatten ++ strayBraces config ∧
        (pieceBounds config).least ≤ pieces.length ∧
        (∀ limit, (pieceBounds config).most = some limit → pieces.length ≤ limit) ∧
        Pieces (fun s piece => IsPiece config s.after piece) s pieces := by
  have plain : (optionsOf config).ignoreCase = false := cased
  rw [Stage.draw] at repeated
  rw [pieceBounds, strayBraces]
  cases given : repetitionBraces? config with
  | none =>
    -- Without braces the row stays as it is, so there is one piece.
    rw [given] at repeated
    obtain rfl := Except.ok.inj repeated
    refine (obeys_piece cased).congr fun s word _ => ?_
    exact Iff.trans (by simp) (exists_single_iff (fun piece => word = piece ++ []))
  | some braces =>
    rw [given] at repeated
    change braces.repeated (.sequence (pieceRow config)) = .ok row at repeated
    unfold Braces.repeated at repeated
    split at repeated
    · next quantifier =>
      split at repeated
      · cases repeated
      · next usable =>
        obtain rfl := Except.ok.inj repeated
        simp only [quantifier, ↓reduceIte, List.append_nil]
        exact obeys_rep (obeys_piece cased) (Bounds.ordered_of_fault? usable)
    · next literal =>
      -- The braces come behind a single piece, character by character.
      obtain rfl := Except.ok.inj repeated
      simp only [literal, Bool.false_eq_true, ↓reduceIte]
      have both := obeys_sequence_cons (obeys_piece cased) (obeys_literals plain braces.text)
      refine both.congr fun s word _ => ?_
      refine Iff.trans ?_ (exists_single_iff (fun piece => word = piece ++ braces.text))
      constructor
      · rintro ⟨piece, _, rfl, holds, rfl⟩
        exact ⟨piece, rfl, holds⟩
      · rintro ⟨piece, rfl, holds⟩
        exact ⟨piece, _, rfl, holds, rfl⟩

end Parts

/-! ### Accepted texts and their parts -/

/-- What the stages draw where nothing takes the place of the pieces. -/
theorem drawn_of_keepsPieces {config : Config} (keeps : config.KeepsPieces) :
    drawn config = (Stage.repetitions.draw config (.ok (pieceRow config))).map fun row =>
      .anchor .lineStart :: (withoutWords (config.words .disallowedWords) ++
        (literals (config.scalar .opening).chars ++ row ++
          literals (config.scalar .closing).chars) ++ [.anchor .lineEnd]) := by
  have unbounded : lengthBraces? config = none := by
    rw [lengthBraces?, Config.count?, Config.count?, keeps.noMinLength, keeps.noMaxLength]
    rfl
  have noAllowed : config.words .allowedWords = [] := by
    rw [Config.words, keeps.noAllowed]
    rfl
  have stages : draw config = Stage.words.draw config (Stage.ends.draw config
      (Stage.lengthBounds.draw config (Stage.repetitions.draw config (.ok (pieceRow config))))) :=
    rfl
  rw [drawn, stages]
  cases Stage.repetitions.draw config (.ok (pieceRow config)) <;>
    simp [Stage.draw, unbounded, noAllowed, onlyWords, Except.map]

/-- The accepted texts are those that fall into a lead, a beginning, pieces and an ending, from the
start of a line to the end of one. -/
theorem accepts_iff_splits {config : Config} (keeps : config.KeepsPieces) {matcher : Matcher}
    (compiled : Matcher.ofConfig config = .ok matcher) (text : String) :
    matcher.accepts text = true ↔
      ∃ earlier lead pieces later,
        text.toList = earlier ++ (lead ++ behindLead config pieces later) ∧
          Splits config earlier lead pieces later := by
  obtain ⟨shown, -, compiles⟩ := ofConfig_eq keeps.toIsOrdinary
  rw [drawn_of_keepsPieces keeps] at compiles
  cases repeated : Stage.repetitions.draw config (.ok (pieceRow config)) with
  | error cause =>
    rw [repeated] at compiles
    obtain ⟨place, refused⟩ := compiles
    simp [compiled] at refused
  | ok row =>
    rw [repeated] at compiles
    obtain rfl := Except.ok.inj (compiled.symm.trans compiles.2)
    have cased : (optionsOf config).ignoreCase = false := keeps.cased
    -- The row in its order: words that are not allowed, the beginning, the pieces, the ending.
    have obeys := obeys_sequence_append
      ((obeys_withoutWords (config.words .disallowedWords)).congr fun _ _ _ =>
        leadLaw_iff keeps.cased)
      (obeys_sequence_append
        (obeys_sequence_append (obeys_literals cased (config.scalar .opening).chars)
          (obeys_repetitions keeps.cased repeated))
        (obeys_literals cased (config.scalar .closing).chars))
    rw [Matcher.accepts, Pattern.accepts_iff_between obeys]
    have whole (lead : List Char) (pieces : List (List Char)) (later : List Char) :
        lead ++ ((config.scalar .opening).chars ++ (pieces.flatten ++ strayBraces config) ++
          (config.scalar .closing).chars) ++ later = lead ++ behindLead config pieces later := by
      simp [behindLead, behindPieces]
    -- The pieces look ahead from behind the lead and the beginning.
    have behind (earlier lead : List Char) (pieces : List (List Char)) (later : List Char) :
        (((State.fresh earlier.reverse (lead ++ behindLead config pieces later) 1).advance
          lead.length).advance (config.scalar .opening).chars.length).after =
            pieces.flatten ++ behindPieces config later :=
      State.advance_after (State.advance_after rfl)
    constructor
    · rintro ⟨earlier, _, later, split, starts, ends, lead, _, rfl, ⟨dotted, tied, clear⟩, _, _,
        rfl, ⟨_, _, rfl, rfl, pieces, rfl, enough, few, holds⟩, rfl⟩
      rw [whole] at split clear holds
      exact ⟨earlier, lead, pieces, later, split, starts, ends, enough, few, dotted, tied, clear,
        (pieces_iff pieces _ _ (behind earlier lead pieces later)).mp holds⟩
    · rintro ⟨earlier, lead, pieces, later, split, splits⟩
      have holds := (pieces_iff pieces _ _ (behind earlier lead pieces later)).mpr splits.pieces
      refine ⟨earlier, _, later, ?_, splits.starts, splits.ends, lead, _, rfl,
        ⟨splits.dotted, splits.tied, ?_⟩, _, _, rfl, ⟨_, _, rfl, rfl, pieces, rfl, splits.enough,
          splits.few, ?_⟩, rfl⟩
      · rw [whole, split]
      · rw [whole]
        exact splits.clear
      · rw [whole]
        exact holds

/-- Every piece is one where it begins. -/
theorem ArePieces.isPiece {config : Config} {piece : List Char} {next : List (List Char)}
    {rest : List Char} (earlier : List (List Char)) :
    ArePieces config (earlier ++ piece :: next) rest →
      IsPiece config (piece ++ (next.flatten ++ rest)) piece := by
  induction earlier with
  | nil => exact fun holds => holds.1
  | cons _ earlier ih => exact fun holds => ih holds.2

theorem infix_of_occurs {config : Config} {word text : List Char}
    (occurs : Occurs config word text) : word <:+: text := by
  obtain ⟨skipped, -, after, split⟩ := occurs
  exact ⟨skipped, after, split⟩

/-! ### Excluded words -/

/-- Wherever the word comes in the text, a line break comes before it. -/
def OnlyBehindBreak (word text : List Char) : Prop :=
  ∀ before after, text = before ++ (word ++ after) → '\n' ∈ before

section Undotted

variable {config : Config} (undotted : config.isOn .dotAll = false)

include undotted

theorem isDotted_iff (text : List Char) : IsDotted config text ↔ '\n' ∉ text := by
  simpa [IsDotted, undotted] using List.forall_mem_ne'

/-- Without the dot going past line breaks, the search for a word ends at the first of them. -/
theorem not_occurs_iff (word text : List Char) :
    ¬ Occurs config word text ↔ OnlyBehindBreak word text := by
  constructor
  · intro absent before after split
    by_contra unbroken
    refine absent ⟨before, (isDotted_iff undotted before).mpr unbroken, after, ?_⟩
    rw [split, List.append_assoc]
  · rintro behind ⟨skipped, dotted, after, split⟩
    have broken := behind skipped after (by rw [← split, List.append_assoc])
    exact (isDotted_iff undotted skipped).mp dotted broken

end Undotted

/-- A word that comes behind line breaks only does not come in a text whose only line break ends
it. -/
theorem OnlyBehindBreak.not_contains {word text : List Char} (behind : OnlyBehindBreak word text)
    (unbroken : '\n' ∉ text.dropLast) : ¬ word <:+: text := by
  rintro ⟨before, after, split⟩
  rw [List.append_assoc] at split
  have inside : word ++ after ≠ [] := by
    -- The empty word would come at the very beginning too.
    intro empty
    obtain rfl : word = [] := (List.append_eq_nil_iff.mp empty).1
    exact absurd (behind [] text rfl) List.not_mem_nil
  have passed : before <+: text.dropLast := by
    rw [← split, List.dropLast_append_of_ne_nil inside]
    exact List.prefix_append before _
  exact unbroken (passed.subset (behind before after split.symm))

/-- Where an accepted text has no excluded word. A word that is not allowed comes behind line breaks
only. From the beginning of each piece on, so does a word that the text must not contain; it is not
looked for before the first piece, nor at all where there is none. -/
theorem excluded_of_accepts {config : Config} (keeps : config.KeepsPieces)
    (singleLine : config.isOn .multiLine = false) (undotted : config.isOn .dotAll = false)
    {matcher : Matcher} (compiled : Matcher.ofConfig config = .ok matcher) {text : String}
    (accepted : matcher.accepts text = true) :
    (∀ word ∈ config.words .disallowedWords, OnlyBehindBreak word text.toList) ∧
    (∃ lead pieces final, text.toList = lead ++ behindLead config pieces final ∧
      '\n' ∉ lead ∧ (config.words .disallowedWords = [] → lead = []) ∧
      (pieceBounds config).least ≤ pieces.length ∧
      (∀ limit, (pieceBounds config).most = some limit → pieces.length ≤ limit) ∧
      (final = [] ∨ final = ['\n']) ∧
      ∀ earlier piece next, pieces = earlier ++ piece :: next →
        ∀ word ∈ config.words .mustNotContain,
          OnlyBehindBreak word (piece ++ (next.flatten ++ behindPieces config final))) ∧
    ('\n' ∉ text.toList.dropLast →
      (∀ word ∈ config.words .disallowedWords, ¬ word <:+: text.toList) ∧
      (config.words .disallowedWords = [] → (config.scalar .opening).chars = [] →
        1 ≤ (pieceBounds config).least →
          ∀ word ∈ config.words .mustNotContain, ¬ word <:+: text.toList)) := by
  obtain ⟨earlier, lead, pieces, final, split, splits⟩ :=
    (accepts_iff_splits keeps compiled text).mp accepted
  have single : (optionsOf config).multiLine = false := singleLine
  obtain rfl := (startsLine_iff single).mp splits.starts
  have ended := (endsLine_iff single).mp splits.ends
  rw [List.nil_append] at split
  -- Words that are not allowed are looked for once, from the start of the text.
  have disallowed : ∀ word ∈ config.words .disallowedWords, OnlyBehindBreak word text.toList := by
    intro word member
    rw [split]
    exact (not_occurs_iff undotted _ _).mp (splits.clear word member)
  -- Words to keep out are looked for again at each piece.
  have absent : ∀ earlier piece next, pieces = earlier ++ piece :: next →
      ∀ word ∈ config.words .mustNotContain,
        OnlyBehindBreak word (piece ++ (next.flatten ++ behindPieces config final)) := by
    intro earlier piece next parts word member
    have piece' := ArePieces.isPiece earlier (parts ▸ splits.pieces)
    exact (not_occurs_iff undotted _ _).mp (piece'.absent word member)
  refine ⟨disallowed, ⟨lead, pieces, final, split, (isDotted_iff undotted lead).mp splits.dotted,
    splits.tied, splits.enough, splits.few, ended, absent⟩, fun unbroken => ⟨?_, ?_⟩⟩
  · exact fun word member => (disallowed word member).not_contains unbroken
  · intro none' bare positive word member
    -- The first piece begins where the text does.
    have some' : pieces ≠ [] := List.length_pos_iff.mp (positive.trans splits.enough)
    obtain ⟨piece, next, rfl⟩ := List.exists_cons_of_ne_nil some'
    have whole : text.toList = piece ++ (next.flatten ++ behindPieces config final) := by
      rw [split, splits.tied none', behindLead, bare]
      simp
    rw [whole] at unbroken ⊢
    exact (absent [] piece next rfl word member).not_contains unbroken

/-- A beginning, a word to keep out and a word that is not allowed. -/
def guarded (opening : String) : Config :=
  ((Config.default.setScalar .opening (.text opening)).setList .mustNotContain [.text "x"]).setList
    .disallowedWords [.text "q"]

theorem keepsPieces_guarded (opening : String) : (guarded opening).KeepsPieces where
  unshaped := rfl
  custom := rfl
  opening := .inr ⟨opening, rfl⟩
  closing := .inl rfl
  words field _ word member := by
    cases field with
    | mustNotContain => exact ⟨"x", List.mem_singleton.mp member⟩
    | disallowedWords => exact ⟨"q", List.mem_singleton.mp member⟩
    | _ => exact (List.not_mem_nil member).elim
  minLength := .inl rfl
  maxLength := .inl rfl
  exactRepetitions := .inl rfl
  minRepetitions _ := .inl rfl
  maxRepetitions _ := .inl rfl
  noAllowed := rfl
  noMinLength := rfl
  noMaxLength := rfl
  cased := rfl

theorem behindLead_guarded (opening : String) :
    behindLead (guarded opening) [[]] [] = opening.toList :=
  List.append_nil opening.toList

/-- The beginning is a text of its own, with one empty piece behind it. -/
theorem splits_guarded {opening : String} (clear : OnlyBehindBreak ['q'] opening.toList) :
    Splits (guarded opening) [] [] [[]] [] where
  starts := .inl rfl
  ends := .inl (.inl rfl)
  enough := Nat.le_refl 1
  few _ most := (Option.some.inj most).le
  dotted := by simp [IsDotted]
  tied _ := rfl
  clear word member := by
    obtain rfl := List.mem_singleton.mp member
    rw [List.nil_append, behindLead_guarded]
    exact (not_occurs_iff rfl _ _).mpr clear
  pieces := by
    refine ⟨⟨?_, ?_, ?_⟩, trivial⟩
    · have bare : partsOn (guarded opening) = [] := rfl
      simp [IsContent, bare, IsDotted]
    · exact fun word member => (List.not_mem_nil member).elim
    · intro word member occurs
      obtain rfl := List.mem_singleton.mp member
      have nothing : behindPieces (guarded opening) [] = [] := rfl
      rw [nothing] at occurs
      exact absurd (infix_of_occurs occurs) (by decide)

theorem exists_accepts_guarded {opening : String} (clear : OnlyBehindBreak ['q'] opening.toList) :
    ∃ matcher, Matcher.ofConfig (guarded opening) = .ok matcher ∧
      matcher.accepts opening = true := by
  have keeps := keepsPieces_guarded opening
  obtain ⟨text, -, compiles⟩ := ofConfig_eq keeps.toIsOrdinary
  exact ⟨_, compiles.2, (accepts_iff_splits keeps compiles.2 opening).mpr
    ⟨[], [], [[]], [], (behindLead_guarded opening).symm, splits_guarded clear⟩⟩

theorem excluded_of_accepts_guarded : (guarded "x").KeepsPieces ∧
    (guarded "x").isOn .multiLine = false ∧ (guarded "x").isOn .dotAll = false ∧
    ∃ matcher, Matcher.ofConfig (guarded "x") = .ok matcher ∧ matcher.accepts "x" = true ∧
      '\n' ∉ "x".toList.dropLast ∧
      ∀ word ∈ (guarded "x").words .disallowedWords, ¬ word <:+: "x".toList := by
  have absent : OnlyBehindBreak ['q'] "x".toList := fun before after split =>
    absurd ⟨before, after, by rw [split, List.append_assoc]⟩
      (by decide : ¬ ['q'] <:+: "x".toList)
  obtain ⟨matcher, compiled, accepted⟩ := exists_accepts_guarded absent
  have keeps := keepsPieces_guarded "x"
  have unbroken : '\n' ∉ "x".toList.dropLast := by decide
  exact ⟨keeps, rfl, rfl, matcher, compiled, accepted, unbroken,
    ((excluded_of_accepts keeps rfl rfl compiled accepted).2.2 unbroken).1⟩

/-- A word to keep out is not looked for in the beginning, and a word that is not allowed is not
looked for behind a line break. -/
theorem not_excluded_of_accepts :
    ¬ ∀ (config : Config) (matcher : Matcher) (text : String), config.KeepsPieces →
      config.isOn .multiLine = false → config.isOn .dotAll = false →
      Matcher.ofConfig config = .ok matcher → matcher.accepts text = true →
      (∀ word ∈ config.words .mustNotContain, ¬ word <:+: text.toList) ∨
        ∀ word ∈ config.words .disallowedWords, ¬ word <:+: text.toList := by
  intro excluded
  have behind : OnlyBehindBreak ['q'] "x\nq".toList := by
    intro before after split
    -- The `q` is the last of three characters, and the break is the one before it.
    match before, split with
    | ['x', '\n'], _ => simp
    | [], split => simp at split
    | [_], split => simp at split
    | _ :: _ :: _ :: _, split => simp at split
  obtain ⟨matcher, compiled, accepted⟩ := exists_accepts_guarded behind
  rcases excluded (guarded "x\nq") matcher "x\nq" (keepsPieces_guarded "x\nq") rfl rfl compiled
    accepted with noneKeptOut | allAllowed
  · exact noneKeptOut ['x'] List.mem_cons_self ⟨[], ['\n', 'q'], rfl⟩
  · exact allAllowed ['q'] List.mem_cons_self ⟨['x', '\n'], [], rfl⟩

/-! ### Words asked for -/

/-- An accepted text has all words asked for, unless there may be no piece and the text has none. -/
theorem included_of_accepts {config : Config} (keeps : config.KeepsPieces) {matcher : Matcher}
    (compiled : Matcher.ofConfig config = .ok matcher) {text : String}
    (accepted : matcher.accepts text = true) :
    (∀ word ∈ config.words .mustContain, word <:+: text.toList) ∨
      (pieceBounds config).least = 0 ∧ ∃ earlier lead later,
        text.toList = earlier ++ (lead ++ behindLead config [] later) ∧
          Splits config earlier lead [] later := by
  obtain ⟨earlier, lead, pieces, later, split, splits⟩ :=
    (accepts_iff_splits keeps compiled text).mp accepted
  cases pieces with
  | nil =>
    exact .inr ⟨Nat.le_zero.mp splits.enough, earlier, lead, later, split, splits⟩
  | cons piece next =>
    -- The first piece asks for all words in what is left of the text from there on.
    refine .inl fun word member => ?_
    have found := infix_of_occurs (splits.pieces.1.present word member)
    rw [split, behindLead]
    refine found.trans (List.IsSuffix.isInfix ⟨earlier ++ (lead ++ (config.scalar .opening).chars),
      ?_⟩)
    simp

/-- A word to be asked for, in at most three pieces. -/
def sought : Config :=
  (Config.default.setScalar .maxRepetitions (.int 3)).setList .mustContain [.text "x"]

theorem keepsPieces_sought : sought.KeepsPieces where
  unshaped := rfl
  custom := rfl
  opening := .inl rfl
  closing := .inl rfl
  words field _ word member := by
    cases field with
    | mustContain => exact ⟨"x", List.mem_singleton.mp member⟩
    | _ => exact (List.not_mem_nil member).elim
  minLength := .inl rfl
  maxLength := .inl rfl
  exactRepetitions := .inl rfl
  minRepetitions _ := .inl rfl
  maxRepetitions _ := .inr ⟨3, rfl, isShort_of_digit (by decide)⟩
  noAllowed := rfl
  noMinLength := rfl
  noMaxLength := rfl
  cased := rfl

theorem splits_sought : Splits sought [] [] [] [] where
  starts := .inl rfl
  ends := .inl (.inl rfl)
  enough := Nat.le_refl 0
  few _ _ := Nat.zero_le _
  dotted := by simp [IsDotted]
  tied _ := rfl
  clear _ member := (List.not_mem_nil member).elim
  pieces := trivial

theorem exists_accepts_sought : ∃ matcher, Matcher.ofConfig sought = .ok matcher ∧
    matcher.accepts "" = true := by
  obtain ⟨text, -, compiles⟩ := ofConfig_eq keepsPieces_sought.toIsOrdinary
  exact ⟨_, compiles.2, (accepts_iff_splits keepsPieces_sought compiles.2 "").mpr
    ⟨[], [], [], [], rfl, splits_sought⟩⟩

/-- The same word, in at least one piece. -/
def soughtOnce : Config := sought.setScalar .minRepetitions (.int 1)

theorem keepsPieces_soughtOnce : soughtOnce.KeepsPieces :=
  { keepsPieces_sought with
    minRepetitions := fun _ => .inr ⟨1, rfl, isShort_of_digit (by decide)⟩ }

/-- Two characters are one piece that has the word. -/
theorem splits_soughtOnce : Splits soughtOnce [] [] [['a', 'x']] [] where
  starts := .inl rfl
  ends := .inl (.inl rfl)
  enough := Nat.le_refl 1
  few _ most := Option.some.inj most ▸ (by decide)
  dotted := by simp [IsDotted]
  tied _ := rfl
  clear _ member := (List.not_mem_nil member).elim
  pieces := by
    have dotted (text : List Char) (unbroken : '\n' ∉ text) : IsDotted soughtOnce text :=
      (isDotted_iff rfl text).mpr unbroken
    refine ⟨⟨?_, fun word member => ?_, fun _ member => (List.not_mem_nil member).elim⟩, trivial⟩
    · exact dotted ['a', 'x'] (by decide)
    · obtain rfl := List.mem_singleton.mp member
      exact ⟨['a'], dotted ['a'] (by decide), [], rfl⟩

theorem exists_accepts_soughtOnce : ∃ matcher, Matcher.ofConfig soughtOnce = .ok matcher ∧
    matcher.accepts "ax" = true := by
  obtain ⟨text, -, compiles⟩ := ofConfig_eq keepsPieces_soughtOnce.toIsOrdinary
  exact ⟨_, compiles.2, (accepts_iff_splits keepsPieces_soughtOnce compiles.2 "ax").mpr
    ⟨[], [], [['a', 'x']], [], rfl, splits_soughtOnce⟩⟩

theorem included_of_accepts_sought :
    (sought.KeepsPieces ∧
      ∃ matcher, Matcher.ofConfig sought = .ok matcher ∧ matcher.accepts "" = true ∧
        ((∀ word ∈ sought.words .mustContain, word <:+: "".toList) ∨
          (pieceBounds sought).least = 0 ∧ ∃ earlier lead later,
            "".toList = earlier ++ (lead ++ behindLead sought [] later) ∧
              Splits sought earlier lead [] later)) ∧
    (soughtOnce.KeepsPieces ∧
      ∃ matcher, Matcher.ofConfig soughtOnce = .ok matcher ∧ matcher.accepts "ax" = true ∧
        ∀ word ∈ soughtOnce.words .mustContain, word <:+: "ax".toList) := by
  obtain ⟨matcher, compiled, accepted⟩ := exists_accepts_sought
  obtain ⟨once, compiledOnce, acceptedOnce⟩ := exists_accepts_soughtOnce
  have included := included_of_accepts keepsPieces_soughtOnce compiledOnce acceptedOnce
  have positive : (pieceBounds soughtOnce).least ≠ 0 := Nat.one_ne_zero
  exact ⟨⟨keepsPieces_sought, matcher, compiled, accepted,
      included_of_accepts keepsPieces_sought compiled accepted⟩,
    keepsPieces_soughtOnce, once, compiledOnce, acceptedOnce,
    included.resolve_right fun none' => positive none'.1⟩

/-- Where there may be no piece, no word is asked for. -/
theorem not_included_of_accepts :
    ¬ ∀ (config : Config) (matcher : Matcher) (text : String), config.KeepsPieces →
      Matcher.ofConfig config = .ok matcher → matcher.accepts text = true →
      ∀ word ∈ config.words .mustContain, word <:+: text.toList := by
  intro included
  obtain ⟨matcher, compiled, accepted⟩ := exists_accepts_sought
  have found := included sought matcher "" keepsPieces_sought compiled accepted ['x']
    List.mem_cons_self
  exact absurd found (by decide)

end Pipeline

end Patternwright
