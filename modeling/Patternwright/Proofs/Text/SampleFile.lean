import Patternwright.Proofs.Directory

/-!
# Files with samples

A file gives its samples in their order, each as it was written. Lines may end in any of three ways,
from line to line, and blank ones may stand anywhere. Two line ends may become one: a carriage
return that ends a sample and the line feed of an empty line behind it are the end of a single line.
The empty line is lost then, which does not matter, and this is the only way to lose one.

White space is no line end by itself. A line separator or a form feed in a sample stays where it is,
and so do blanks around the sample.

## Main definitions

* `Text.IsSample` — the samples that a file can hold
* `Text.IsFileOf` — a text holds some samples

## Main results

* `Text.samples_append` — the first line of a text
* `Text.samples_of_isFileOf` — a text gives the samples that it holds
* `Directory.readSamples_of_isFileOf` — so does a file
-/

namespace Patternwright

namespace Text

/-- The ways in which a line ends. -/
inductive LineEnd where
  | feed
  | carriage
  | pair

/-- The characters at the end of a line. -/
def LineEnd.chars : LineEnd → List Char
  | feed => ['\n']
  | carriage => ['\r']
  | pair => ['\r', '\n']

/-- A text without line ends. -/
def IsUnbroken (text : List Char) : Prop := '\r' ∉ text ∧ '\n' ∉ text

instance (text : List Char) : Decidable (IsUnbroken text) := inferInstanceAs (Decidable (_ ∧ _))

/-- A blank line without its end. -/
structure IsBlank (line : List Char) : Prop where
  unbroken : IsUnbroken line
  blank : ∀ c ∈ line, Unicode.isBlank c.toNat = true

/-- A text on one line that is not blank. -/
structure IsSample (sample : String) : Prop where
  unbroken : IsUnbroken sample.toList
  shown : ∃ c ∈ sample.toList, Unicode.isBlank c.toNat = false

/-- A text holds samples, each on a line of its own, with blank lines anywhere. The last line need
not be ended. -/
inductive IsFileOf : List String → List Char → Prop
  | lastBlank {line : List Char} (blank : IsBlank line) : IsFileOf [] line
  | lastSample (sample : String) : IsFileOf [sample] sample.toList
  | blank {line text : List Char} {samples : List String} (blank : IsBlank line) (ending : LineEnd)
    (later : IsFileOf samples text) : IsFileOf samples (line ++ ending.chars ++ text)
  | sample {text : List Char} {samples : List String} (sample : String) (ending : LineEnd)
    (later : IsFileOf samples text) :
    IsFileOf (sample :: samples) (sample.toList ++ ending.chars ++ text)

variable {line text : List Char}

/-- The lines of a text that are not blank. -/
def shownLines (text : List Char) : List (List Char) :=
  (lines text).filter fun line => !isBlankLine line

theorem samples_eq (text : List Char) :
    samples text = (shownLines (unifyBreaks text)).map String.ofList := rfl

theorem IsBlank.isBlankLine_eq (blank : IsBlank line) : isBlankLine line = true :=
  List.all_eq_true.mpr blank.blank

theorem IsSample.isBlankLine_eq {sample : String} (isSample : IsSample sample) :
    isBlankLine sample.toList = false := by
  obtain ⟨c, member, shown⟩ := isSample.shown
  exact List.all_eq_false.mpr ⟨c, member, by simp [shown]⟩

/-- Behind a line end come the lines of the rest. An empty line may be missing, if its end has become
part of the one before. -/
theorem exists_unifyBreaks_chars (ending : LineEnd) (text : List Char) :
    ∃ rest, unifyBreaks (ending.chars ++ text) = '\n' :: rest ∧
      shownLines rest = shownLines (unifyBreaks text) := by
  cases ending with
  | feed => exact ⟨unifyBreaks text, rfl, rfl⟩
  | pair => exact ⟨unifyBreaks text, rfl, rfl⟩
  | carriage =>
    by_cases fused : ∃ rest, text = '\n' :: rest
    · obtain ⟨rest, rfl⟩ := fused
      exact ⟨unifyBreaks rest, rfl, rfl⟩
    · refine ⟨unifyBreaks text, ?_, rfl⟩
      rw [LineEnd.chars, List.singleton_append, unifyBreaks]
      exact fun rest begins => fused ⟨rest, begins⟩

/-- The first line of a text gives a sample, unless it is blank. -/
theorem samples_append (unbroken : IsUnbroken line) (ending : LineEnd) (text : List Char) :
    samples (line ++ ending.chars ++ text) =
      (if isBlankLine line then [] else [String.ofList line]) ++ samples text := by
  obtain ⟨rest, broken, same⟩ := exists_unifyBreaks_chars ending text
  rw [samples_eq, List.append_assoc, unifyBreaks_append unbroken.1, broken, shownLines,
    lines_append unbroken.2, List.filter_cons, samples_eq, ← same, shownLines]
  cases isBlankLine line <;> simp

/-- The only line of a text gives a sample, unless it is blank. -/
theorem samples_of_isUnbroken (unbroken : IsUnbroken line) :
    samples line = if isBlankLine line then [] else [String.ofList line] := by
  have kept : unifyBreaks line = line := by
    simpa [unifyBreaks] using unifyBreaks_append unbroken.1 []
  rw [samples_eq, kept, shownLines]
  by_cases written : line = []
  · subst written
    rfl
  · rw [lines_of_isLine unbroken.2 written, List.filter_cons, List.filter_nil]
    cases isBlankLine line <;> rfl

/-- A text gives the samples that it holds. -/
theorem samples_of_isFileOf {held : List String} (file : IsFileOf held text)
    (each : ∀ sample ∈ held, IsSample sample) : samples text = held := by
  induction file with
  | lastBlank blank => rw [samples_of_isUnbroken blank.unbroken, if_pos blank.isBlankLine_eq]
  | lastSample sample =>
    have isSample := each sample List.mem_cons_self
    rw [samples_of_isUnbroken isSample.unbroken, isSample.isBlankLine_eq]
    simp
  | blank blank ending later ih =>
    rw [samples_append blank.unbroken, if_pos blank.isBlankLine_eq, List.nil_append, ih each]
  | sample sample ending later ih =>
    obtain ⟨isSample, each⟩ := List.forall_mem_cons.mp each
    rw [samples_append isSample.unbroken, isSample.isBlankLine_eq, ih each]
    simp

end Text

variable {files : Directory} {path : String} {text : List Char}

/-- The samples of a file are those of its text, whatever characters it has. -/
theorem Directory.readSamples_eq (content : files.read path = .ok (Encoding.encode text)) :
    files.readSamples path = .ok (Text.samples text) := by
  rw [readSamples, content, ok_bind, Encoding.decodeInBlocks_encode]
  rfl

/-- A file gives the samples that it holds, in their order and as they were written. -/
theorem Directory.readSamples_of_isFileOf {held : List String}
    (each : ∀ sample ∈ held, Text.IsSample sample) (file : Text.IsFileOf held text)
    (content : files.read path = .ok (Encoding.encode text)) :
    files.readSamples path = .ok held := by
  rw [Directory.readSamples_eq content, Text.samples_of_isFileOf file each]

/-- A file with blank lines of every kind. The first sample has blanks around it and a line separator
inside, and an empty line behind it that is lost; the last line is not ended. -/
def mixedText : List Char := "\x1c\n a\u2028b \r\n\u00a0\r\nx".toList

theorem isFileOf_mixedText : Text.IsFileOf [" a\u2028b ", "x"] mixedText := by
  have separator : Text.IsBlank ['\x1c'] := ⟨by decide, List.forall_mem_singleton.mpr rfl⟩
  have empty : Text.IsBlank [] := ⟨by decide, nofun⟩
  have space : Text.IsBlank ['\u00a0'] := ⟨by decide, List.forall_mem_singleton.mpr rfl⟩
  exact .blank separator .feed (.sample " a\u2028b " .carriage (.blank empty .feed
    (.blank space .pair (.lastSample "x"))))

theorem Directory.readSamples_of_isFileOf_mixed :
    (∀ sample ∈ [" a\u2028b ", "x"], Text.IsSample sample) ∧
      Text.IsFileOf [" a\u2028b ", "x"] mixedText ∧
      Directory.readSamples [("c", Encoding.encode mixedText)] "c" = .ok [" a\u2028b ", "x"] := by
  have each : ∀ sample ∈ [" a\u2028b ", "x"], Text.IsSample sample := by
    simp only [List.forall_mem_cons]
    exact ⟨⟨⟨by decide, by decide⟩, 'a', by decide, by decide⟩,
      ⟨⟨by decide, by decide⟩, 'x', by decide, by decide⟩, nofun⟩
  have content := Directory.read_put (Directory.locate_single []) (Encoding.encode mixedText)
  exact ⟨each, isFileOf_mixedText,
    Directory.readSamples_of_isFileOf each isFileOf_mixedText content⟩

end Patternwright
