import Mathlib
import Patternwright.Proofs.CommandLine.Action
import Patternwright.Proofs.Config.Document

/-!
# Saved configurations

A configuration that was written as a document to a file is the configuration of that document. The
path may lead to any file, new or old, but it must not be the one that stands for the standard
streams.

## Main results

* `CommandLine.document_of_writeDocument` — a document that was written is read back
* `CommandLine.document_of_saved_config` — so is a configuration
-/

namespace Patternwright.CommandLine

theorem closeLine_eq (text : String) : closeLine text = text ∨ closeLine text = text ++ "\n" := by
  unfold closeLine
  split
  · exact .inl rfl
  · exact .inr rfl

/-- A text with its last line closed has nothing but line feeds more. -/
theorem toList_closeLine (text : String) :
    ∃ rest, (closeLine text).toList = text.toList ++ rest ∧ ∀ c ∈ rest, c = '\n' := by
  rcases closeLine_eq text with closed | closed
  · exact ⟨[], by simp [closed], by simp⟩
  · exact ⟨['\n'], by simp [closed], by simp⟩

theorem isVerbatim_of_isShown {text : List Char} (shown : ∀ c ∈ text, Json.IsShown c) :
    Encoding.IsVerbatim text := by
  intro c member
  rcases shown c member with rfl | ⟨least, most⟩
  · decide
  · rw [Char.le_def, UInt32.le_iff_toNat_le] at least most
    refine ⟨lt_of_le_of_lt most (by decide), ?_⟩
    rintro rfl
    exact absurd least (by decide)

variable {files : Directory} {path name : String}

/-- A document that was written to a file is read back from there, whatever is on standard input. -/
theorem document_of_writeDocument {v : Value} (portable : v.IsPortable)
    (named : path ≠ standardStream) (leads : files.locate path = .ok (.file name)) (code : Nat) :
    ∃ reply, writeDocument files code v path = .ok reply ∧
      ∀ input, World.document ⟨reply.files, input⟩ path = Config.ofDocument v.inOrder := by
  obtain ⟨rest, closed, feeds⟩ := toList_closeLine (Json.write v)
  -- A document is written in ASCII, and so its file gives back what was written.
  have verbatim : Encoding.IsVerbatim (closeLine (Json.write v)).toList := by
    refine isVerbatim_of_isShown fun c member => ?_
    rw [closed, Json.write, String.toList_ofList] at member
    rcases List.mem_append.mp member with member | member
    · exact Json.isShown_of_mem_writeAt portable 0 c member
    · exact .inl (feeds c member)
  have written : writeDocument files code v path = .ok ⟨code, "",
      files.put name (Encoding.encode (closeLine (Json.write v)).toList)⟩ := by
    rw [writeDocument, reply, Action.writeDocument, if_pos portable.isWritable,
      Action.write_of_target named (Directory.target_eq_ok leads)]
    rfl
  refine ⟨_, written, fun input => ?_⟩
  rw [World.document, if_neg named, Directory.readText_put leads verbatim, ok_bind, closed]
  simp only [Json.read_write portable feeds]

/-- A configuration whose values are no lists or objects is read back from the file that its
document was written to. -/
theorem document_of_saved_config {config : Config} (simple : config.IsSimple)
    (named : path ≠ standardStream) (leads : files.locate path = .ok (.file name)) (code : Nat) :
    ∃ reply, writeDocument files code config.toValue path = .ok reply ∧
      ∀ input, World.document ⟨reply.files, input⟩ path = .ok config := by
  obtain ⟨reply, written, read⟩ := document_of_writeDocument simple.isPortable named leads code
  exact ⟨reply, written, fun input => (read input).trans (Config.ofDocument_inOrder simple)⟩

/-- A configuration with a negative bound, an end on two lines and words of every kind. -/
def variedConfig : Config :=
  ((Config.default.setScalar .minLength (.int (-2))).setScalar .closing (.text "\"é\\\n")).setList
    .mustContain [.text "😀", .null, .bool true]

theorem isSimple_variedConfig : variedConfig.IsSimple where
  scalar field := by
    unfold variedConfig Config.setList Config.setScalar
    dsimp only
    split
    · exact .text _
    split
    · exact .int (Regex.isShort_of_digit (by decide))
    · cases field with
      | custom => exact .text _
      | minLength | maxLength | exactRepetitions | minRepetitions | maxRepetitions => exact .null
      | opening | closing | dateFormat | timeFormat => exact .null
      | _ => exact .bool false
  list field v member := by
    by_cases words : field = .mustContain
    · subst words
      have either : v = .text "😀" ∨ v = .null ∨ v = .bool true := by
        simpa [variedConfig, Config.setList] using member
      rcases either with rfl | rfl | rfl
      · exact .text _
      · exact .null
      · exact .bool true
    · simp [variedConfig, Config.setList, Config.setScalar, Config.default, words] at member

theorem document_of_saved_config_varied :
    ∃ reply, writeDocument [("old", [])] 0 variedConfig.toValue "c" = .ok reply ∧
      ∀ input, World.document ⟨reply.files, input⟩ "c" = .ok variedConfig :=
  document_of_saved_config isSimple_variedConfig (by decide) (Directory.locate_single _) 0

end Patternwright.CommandLine
