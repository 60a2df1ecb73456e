import Patternwright.Proofs.Pipeline.Compile
import Patternwright.Proofs.Regex.Bare
import Patternwright.Proofs.Regex.Laws

/-!
# Patterns over ASCII texts

What a pattern matches depends on its options, and `\d` takes the digits of all scripts. Where no
option is set and a text is ASCII, less has to be said: a point takes any character but a line
break, and there are ten digits. What a tree takes is told by the words of this kind.

Where a format decides on the pattern of a shape, its text is put together for such words. They may
be found anywhere in a text, as the pattern has no anchors. Where the pattern is a fixed text, it is
read by computation. Without its groups it is a row of parts between two anchors, and the words of
the row are those of its parts.

## Main definitions

* `Regex.IsAscii` — the characters of ASCII
* `Regex.Node.Takes` — the ASCII words that a tree matches
* `Regex.IsWrittenFor` — a text that reads as a row which matches the ASCII words that are allowed
* `Regex.isRowText` — a text that reads as a row between anchors, up to groups

## Main results

* `takes_append`, `takes_alt`, `takes_optional`, `takes_run` — larger trees from smaller ones
* `isWrittenFor_char`, `isWrittenFor_choices`, `IsWrittenFor.append` — such texts from their parts
* `Shape.accepts_iff_within` — the ASCII texts that a shape with such a pattern accepts
* `Shape.accepts_iff_obeys` — the texts that a shape accepts whose pattern is a row between anchors
* `Shape.accepts_iff_takes` — the ASCII texts among them
-/

namespace Patternwright

namespace Regex

/-- The characters of ASCII. -/
def IsAscii (text : List Char) : Prop := ∀ c ∈ text, c.toNat < 0x80

theorem isAscii_append {text more : List Char} :
    IsAscii (text ++ more) ↔ IsAscii text ∧ IsAscii more := List.forall_mem_append

/-! ### Words that a tree matches -/

/-- Without options, the ASCII words that the tree matches are those that are allowed. -/
def Node.Takes (node : Node) (Allowed : List Char → Prop) : Prop :=
  ∃ law : List Char → Prop, node.Obeys {} (fun _ word => law word) ∧
    ∀ word, IsAscii word → (law word ↔ Allowed word)

section Takes

variable {first second : Node} {row more : List Node} {Allowed Other : List Char → Prop}

theorem Node.Takes.congr (takes : first.Takes Allowed)
    (same : ∀ word, IsAscii word → (Allowed word ↔ Other word)) : first.Takes Other := by
  obtain ⟨law, obeys, ascii⟩ := takes
  exact ⟨law, obeys, fun word plain => (ascii word plain).trans (same word plain)⟩

theorem takes_literals (text : List Char) :
    (Node.sequence (literals text)).Takes fun word => word = text :=
  ⟨_, obeys_literals rfl text, fun _ _ => Iff.rfl⟩

theorem takes_char {test : CharTest} {Holds : Char → Prop}
    (accepts : ∀ c : Char, c.toNat < 0x80 → (test.accepts {} c = true ↔ Holds c)) :
    (Node.char test).Takes fun word => ∃ c, word = [c] ∧ Holds c := by
  refine ⟨_, obeys_char test, fun word ascii => exists_congr fun c => ?_⟩
  refine and_congr_right fun single => accepts c ?_
  exact ascii c (single ▸ List.mem_singleton_self c)

/-- One row behind another. -/
theorem takes_append (takes : (Node.sequence row).Takes Allowed)
    (later : (Node.sequence more).Takes Other) :
    (Node.sequence (row ++ more)).Takes fun word =>
      ∃ u v, word = u ++ v ∧ Allowed u ∧ Other v := by
  obtain ⟨law, obeys, ascii⟩ := takes
  obtain ⟨lawLater, obeysLater, asciiLater⟩ := later
  refine ⟨_, obeys_sequence_append obeys obeysLater, fun word plain => ?_⟩
  refine exists_congr fun u => exists_congr fun v => and_congr_right fun split => ?_
  obtain ⟨plainFirst, plainLater⟩ := isAscii_append.mp (split ▸ plain)
  exact and_congr (ascii u plainFirst) (asciiLater v plainLater)

/-- One tree or another. -/
theorem takes_alt (takes : first.Takes Allowed) (others : second.Takes Other) :
    (Node.alt first second).Takes fun word => Allowed word ∨ Other word := by
  obtain ⟨law, obeys, ascii⟩ := takes
  obtain ⟨lawOther, obeysOther, asciiOther⟩ := others
  refine ⟨fun word => law word ∨ lawOther word, fun s t => ?_, fun word plain =>
    or_congr (ascii word plain) (asciiOther word plain)⟩
  simp only [Node.ways, List.mem_append, obeys s t, obeysOther s t, ← exists_or, or_and_right,
    and_or_left]

/-- A tree that may be left out. -/
theorem takes_optional (takes : first.Takes Allowed) :
    (Node.rep .greedy 0 (some 1) first).Takes fun word => word = [] ∨ Allowed word := by
  obtain ⟨law, obeys, ascii⟩ := takes
  refine ⟨fun word => word = [] ∨ law word, (obeys_rep obeys (by simp)).congr fun s word _ => ?_,
    fun word plain => or_congr_right (ascii word plain)⟩
  -- There is no piece, or one.
  simp only [pieces_iff_forall]
  constructor
  · rintro ⟨pieces, rfl, -, few, allowed⟩
    rcases pieces with - | ⟨piece, rest⟩
    · exact .inl rfl
    · obtain rfl : rest = [] := by simpa using few 1 rfl
      exact .inr (by simpa using allowed)
  · rintro (rfl | allowed)
    · exact ⟨[], rfl, Nat.le_refl 0, by simp, by simp⟩
    · exact ⟨[word], by simp, Nat.zero_le 1, by simp, by simpa using allowed⟩

/-- Characters of one kind, at least one of them. -/
theorem takes_run {test : CharTest} {Holds : Char → Prop}
    (accepts : ∀ c : Char, c.toNat < 0x80 → (test.accepts {} c = true ↔ Holds c)) :
    (Node.rep .greedy 1 none (.char test)).Takes fun word =>
      word ≠ [] ∧ ∀ c ∈ word, Holds c := by
  refine ⟨_, obeys_rep_char test 1 (by simp), fun word ascii => ?_⟩
  have all : (∀ c ∈ word, test.accepts {} c = true) ↔ ∀ c ∈ word, Holds c :=
    forall₂_congr fun c member => accepts c (ascii c member)
  have filled : 1 ≤ word.length ↔ word ≠ [] := List.length_pos_iff
  simp [all, filled]

end Takes

/-! ### Texts that are written for words -/

/-- A text adds a row of parts wherever it stands. Without options, the ASCII words that the row
matches are those that are allowed. -/
structure IsWrittenFor (text : List Char) (row : List Node) (Allowed : List Char → Prop) :
    Prop where
  reads : Reads text row
  sound : IsSound row
  plain : ∀ node ∈ row, node.isPlain = true
  obeys : ∃ law : List Char → Prop, (Node.sequence row).Obeys {} (fun _ word => law word) ∧
    ∀ word, IsAscii word → (law word ↔ Allowed word)

section Written

variable {text more : List Char} {row next : List Node} {Allowed Other : List Char → Prop}

theorem IsWrittenFor.congr (written : IsWrittenFor text row Allowed)
    (same : ∀ word, IsAscii word → (Allowed word ↔ Other word)) : IsWrittenFor text row Other :=
  { written with obeys := Node.Takes.congr written.obeys same }

theorem isWrittenFor_nil : IsWrittenFor [] [] fun word => word = [] where
  reads := reads_nil
  sound := isSound_nil
  plain := by simp
  obeys := ⟨_, obeys_empty, fun _ _ => Iff.rfl⟩

/-- One text behind another. -/
theorem IsWrittenFor.append (first : IsWrittenFor text row Allowed)
    (second : IsWrittenFor more next Other) :
    IsWrittenFor (text ++ more) (row ++ next) fun word =>
      ∃ u v, word = u ++ v ∧ Allowed u ∧ Other v where
  reads := first.reads.append second.reads
  sound := isSound_append.mpr ⟨first.sound, second.sound⟩
  plain := List.forall_mem_append.mpr ⟨first.plain, second.plain⟩
  obeys := takes_append first.obeys second.obeys

/-- One character. -/
theorem isWrittenFor_char {test : CharTest} (reads : ReadsAtom text (.char test))
    (plain : test.isPlain = true) {Holds : Char → Prop}
    (accepts : ∀ c : Char, c.toNat < 0x80 → (test.accepts {} c = true ↔ Holds c)) :
    IsWrittenFor text [.char test] fun word => ∃ c, word = [c] ∧ Holds c where
  reads := reads.reads
  sound := isSound_cons.mpr ⟨rfl, isSound_nil⟩
  plain := List.forall_mem_singleton.mpr plain
  obeys := takes_char accepts

/-- Any of some texts, in a group. -/
theorem isWrittenFor_choices {ι : Type} {choices : List ι} (nonempty : choices ≠ [])
    {text : ι → List Char} {row : ι → List Node} {Allowed : ι → List Char → Prop}
    (written : ∀ choice, IsWrittenFor (text choice) (row choice) (Allowed choice)) :
    IsWrittenFor ('(' :: '?' :: ':' :: (['|'].intercalate (choices.map text) ++ [')']))
      [.anyOf (choices.map fun choice => .sequence (row choice))] fun word =>
        ∃ choice ∈ choices, Allowed choice word where
  reads := ((fills_bars nonempty fun choice _ =>
    (written choice).reads).readsAtom_group marks_plain).reads
  sound := by
    refine isSound_cons.mpr ⟨fault?_anyOf fun node member => ?_, isSound_nil⟩
    obtain ⟨choice, -, rfl⟩ := List.mem_map.mp member
    exact fault?_sequence (written choice).sound
  plain := by
    refine List.forall_mem_singleton.mpr (Node.isPlain_anyOf fun node member => ?_)
    obtain ⟨choice, -, rfl⟩ := List.mem_map.mp member
    exact Node.isPlain_sequence (written choice).plain
  obeys := by
    -- The laws of the choices make one of their alternatives.
    choose law obeys ascii using fun choice => (written choice).obeys
    refine ⟨_, obeys_anyOf nonempty fun choice _ => obeys choice, fun word plain => ?_⟩
    exact exists_congr fun choice => and_congr_right' (ascii choice word plain)

end Written

/-! ### Rows between anchors -/

/-- The text reads as a plain tree that is, without its groups, the row between two anchors. -/
def isRowText (shown : String) (row : List Node) : Bool :=
  match Parsed.read shown.toList with
  | .ok parsed => parsed.flags.isEmpty && parsed.node.isPlain &&
    parsed.node.bare == .sequence (.anchor .lineStart :: (row ++ [.anchor .lineEnd]))
  | .error _ => false

theorem exists_read_of_isRowText {shown : String} {row : List Node}
    (reads : isRowText shown row = true) :
    ∃ node groupCount, Parsed.read shown.toList = .ok ⟨node, [], groupCount⟩ ∧
      node.isPlain = true ∧
      node.bare = .sequence (.anchor .lineStart :: (row ++ [.anchor .lineEnd])) := by
  unfold isRowText at reads
  split at reads
  · next parsed read =>
    obtain ⟨node, flags, groupCount⟩ := parsed
    simp only [Bool.and_eq_true, List.isEmpty_iff, beq_iff_eq] at reads
    obtain ⟨⟨rfl, plain⟩, bare⟩ := reads
    exact ⟨node, groupCount, read, plain, bare⟩
  · cases reads

end Regex

/-! ### Shapes without options -/

namespace Shape

open Pipeline Regex

variable {config : Config}

theorem toOptions_eq_empty (cased : config.isOn .caseInsensitive = false)
    (single : config.isOn .multiLine = false) (dotless : config.isOn .dotAll = false) :
    (MatchOptions.ofConfig config).toOptions = {} := by
  have ignoreCase : (config.scalar .caseInsensitive).isTruthy = false := cased
  have multiLine : (config.scalar .multiLine).isTruthy = false := single
  have dotAll : (config.scalar .dotAll).isTruthy = false := dotless
  simp [MatchOptions.ofConfig, MatchOptions.toOptions, ignoreCase, multiLine, dotAll]

/-- A shape whose pattern is written for some words accepts the ASCII texts with such a word
somewhere. -/
theorem accepts_iff_within {shape : Shape} (shaped : select? config = some shape)
    (options : (MatchOptions.ofConfig config).toOptions = {}) {shown : String}
    (pattern : shape.pattern config = .ok shown) {row : List Node} {Allowed : List Char → Prop}
    (written : IsWrittenFor shown.toList row Allowed) :
    ∃ matcher, Matcher.ofConfig config = .ok matcher ∧ ∀ text : String, IsAscii text.toList →
      (matcher.accepts text = true ↔
        ∃ before word after, text.toList = before ++ (word ++ after) ∧ Allowed word) := by
  obtain ⟨law, obeys, ascii⟩ := written.obeys
  have compiled := ofConfig_of_build (build_of_shape shaped pattern)
  rw [options, compile_of_reads written.reads written.sound] at compiled
  refine ⟨_, compiled, fun text plain => ?_⟩
  rw [Matcher.accepts, Pattern.accepts_iff_within obeys
    (Pattern.triesAt_of_isPlain (Node.isPlain_sequence written.plain) 1)]
  refine exists_congr fun before => exists_congr fun word => exists_congr fun after =>
    and_congr_right fun split => ascii word fun c inside => plain c ?_
  -- A word that is found in an ASCII text is itself ASCII.
  rw [split]
  simp [inside]

/-- Without options, a shape whose pattern is a row between anchors up to groups accepts the words of
the row, with or without a line break behind them. -/
theorem accepts_iff_obeys {shape : Shape} (shaped : select? config = some shape)
    (options : (MatchOptions.ofConfig config).toOptions = {}) {shown : String}
    (pattern : shape.pattern config = .ok shown) {row : List Node}
    (reads : isRowText shown row = true) {law : List Char → Prop}
    (obeys : (Node.sequence row).Obeys {} fun _ word => law word) :
    ∃ matcher, Matcher.ofConfig config = .ok matcher ∧ ∀ text : String,
      matcher.accepts text = true ↔
        ∃ word, (text.toList = word ∨ text.toList = word ++ ['\n']) ∧ law word := by
  obtain ⟨node, groupCount, read, plain, bare⟩ := exists_read_of_isRowText reads
  have compiled := ofConfig_of_build (build_of_shape shaped pattern)
  rw [options, compile_of_read read, node.fault?_of_isPlain plain] at compiled
  refine ⟨_, compiled, fun text => ?_⟩
  have plainRow := bare ▸ node.isPlain_bare plain
  have same := node.bare_bare.symm.trans (congrArg Node.bare bare)
  rw [Matcher.accepts, Pattern.accepts_iff_of_bare plain plainRow same groupCount 1 text,
    Pattern.accepts_iff_line obeys rfl]
  exact exists_congr fun word => and_comm

/-- Of the ASCII texts, those are accepted that are words for the row. -/
theorem accepts_iff_takes {shape : Shape} (shaped : select? config = some shape)
    (options : (MatchOptions.ofConfig config).toOptions = {}) {shown : String}
    (pattern : shape.pattern config = .ok shown) {row : List Node}
    (reads : isRowText shown row = true) {Allowed : List Char → Prop}
    (takes : (Node.sequence row).Takes Allowed) :
    ∃ matcher, Matcher.ofConfig config = .ok matcher ∧ ∀ text : String, IsAscii text.toList →
      (matcher.accepts text = true ↔
        ∃ word, (text.toList = word ∨ text.toList = word ++ ['\n']) ∧ Allowed word) := by
  obtain ⟨law, obeys, ascii⟩ := takes
  obtain ⟨matcher, compiled, accepts⟩ := accepts_iff_obeys shaped options pattern reads obeys
  refine ⟨matcher, compiled, fun text plain => (accepts text).trans ?_⟩
  refine exists_congr fun word => and_congr_right fun whole => ascii word ?_
  -- The word is a part of the text, so it is ASCII as well.
  rcases whole with split | split
  · exact split ▸ plain
  · exact (isAscii_append.mp (split ▸ plain)).1

end Shape

end Patternwright
