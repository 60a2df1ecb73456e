import Patternwright.Directory
import Patternwright.Proofs.Text.Encoding
import Patternwright.Proofs.Text.Line

/-!
# Files that were written

A path that leads to a file still does so when files are written, and leads to what was written to
it last. A text of ASCII without carriage returns comes back from its file as it was.

## Main definitions

* `Encoding.IsVerbatim` — a text that its file gives back as it is

## Main results

* `Directory.target_eq_ok` — where a path leads to a file, this can be written
* `Directory.readText_put` — and it is read back
-/

namespace Patternwright

namespace Encoding

/-- A text of ASCII without carriage returns. -/
def IsVerbatim (text : List Char) : Prop := ∀ c ∈ text, c.toNat < 0x80 ∧ c ≠ '\r'

variable {text : List Char}

theorem unifyBreaks_of_isVerbatim (verbatim : IsVerbatim text) :
    Text.unifyBreaks text = text := by
  have plain : '\r' ∉ text := fun member => (verbatim _ member).2 rfl
  simpa [Text.unifyBreaks] using Text.unifyBreaks_append plain []

end Encoding

namespace Directory

variable {files : Directory} {path name : String}

/-- Where a path leads does not depend on what files there are, as long as it leads somewhere. -/
theorem locate_congr {place : Place} (leads : files.locate path = .ok place) (others : Directory) :
    others.locate path = .ok place := by
  unfold locate at leads ⊢
  split at leads
  · cases leads
  next noNull =>
  split at leads
  · cases leads
  next given =>
  rw [if_neg noNull, if_neg given]
  revert leads
  split
  · exact id
  · exact id
  · next name more _ _ =>
    intro leads
    split at leads
    · cases leads
    next short =>
    split at leads
    · cases leads
    next here =>
    -- Only a path that goes on below a file depends on what files there are.
    split at leads
    · next final => rw [if_neg short, if_neg here, if_pos final, leads]
    · split at leads <;> cases leads

theorem lookup_put (name : String) (bytes : List UInt8) (files : Directory) :
    (files.put name bytes).lookup name = some bytes := by
  induction files with
  | nil => simp [put]
  | cons file files ih =>
    obtain ⟨n, b⟩ := file
    rw [put]
    split
    · simp
    · next other =>
      have differs : (name == n) = false := beq_eq_false_iff_ne.mpr (Ne.symm other)
      rw [List.lookup_cons, differs]
      exact ih

/-- Of what is put in a file, the last stays. -/
theorem put_put (name : String) (bytes others : List UInt8) (files : Directory) :
    (files.put name bytes).put name others = files.put name others := by
  induction files with
  | nil => simp [put]
  | cons file files ih =>
    obtain ⟨n, b⟩ := file
    rw [put, put]
    split
    · simp [put]
    · next other => rw [put, if_neg other, ih]

/-- Where a path leads to a file, this can be written. -/
theorem target_eq_ok (leads : files.locate path = .ok (.file name)) :
    files.target path = .ok name := by
  rw [target, leads]
  rfl

/-- Bytes that were put in a file are read back. -/
theorem read_put (leads : files.locate path = .ok (.file name)) (bytes : List UInt8) :
    (files.put name bytes).read path = .ok bytes := by
  rw [read, locate_congr leads, ok_bind]
  simp only [lookup_put]
  rfl

/-- A text that was written to a file is read back. -/
theorem readText_put (leads : files.locate path = .ok (.file name)) {text : List Char}
    (verbatim : Encoding.IsVerbatim text) :
    (files.put name (Encoding.encode text)).readText path = .ok text := by
  rw [readText, read_put leads, ok_bind, Encoding.decodeWhole_encode]
  exact congrArg Except.ok (Encoding.unifyBreaks_of_isVerbatim verbatim)

/-- A name of one character leads to a file. -/
theorem locate_single (files : Directory) : files.locate "c" = .ok (.file "c") := by
  have names : "c".splitOn "/" = ["c"] := by
    rw [String.splitOn, if_neg (by decide), String.splitOnAux, if_neg (by decide +kernel),
      if_neg (by decide +kernel), String.splitOnAux, if_pos (by decide +kernel)]
    decide +kernel
  have short : ¬ nameLimit < "c".utf8ByteSize := by decide
  have final : "c".endsWith "/" = false :=
    String.Slice.endsWith_string_eq_false_iff.mpr (by decide +kernel)
  have alone : Directory.locate [] "c" = .ok (.file "c") := by
    unfold Directory.locate Directory.names
    rw [names]
    simp [short, final]
  exact locate_congr alone files

end Directory

end Patternwright
