import Mathlib
import Patternwright.Proofs.CommandLine.Action
import Patternwright.Proofs.CommandLine.Writing
import Patternwright.Proofs.Text.Line

/-!
# Failed commands

A command that fails leaves nothing behind but what it says on standard error: whatever went wrong,
and however far the command had come, there is no output, and all files are as they were. This is so
because a command writes last: all that could go wrong with the options, the document, the pattern,
the samples and the path to write to has gone wrong before.

An exit code of one alone is no failure, since a test of samples that do not do what is expected of
them gives it too. What tells a failure is the line about the error. The journal of a run cannot be
mistaken for it, because each of its events takes one line that begins in its own way.

## Main definitions

* `CommandLine.Report.IsFailure` — a run ended in an error

## Main results

* `Event.lines_join` — the lines of a journal are those of its events
* `CommandLine.output_of_isFailure` — a run that ended in an error left no output and no files
-/

namespace Patternwright

open Text (IsLine isLine_append)

namespace Event

/-- The line of an event without its end. -/
def record (event : Event) : List Char :=
  ("DEBUG regexforge." ++ event.entry.1 ++ ": " ++ event.entry.2).toList

theorem toList_line (event : Event) : event.line.toList = event.record ++ ['\n'] :=
  String.toList_append

/-- An event takes one line, unless it names a command that no one could give. -/
theorem isLine_record {event : Event} (inner : event.IsInner) : IsLine event.record := by
  have entry : IsLine event.entry.1.toList ∧ IsLine event.entry.2.toList := by
    cases event with
    | stageRun stage output =>
      simp only [Event.entry, String.toList_append, isLine_append]
      exact ⟨by decide, ⟨⟨by decide, by cases stage <;> decide⟩, by decide⟩, output.isLine_quoted⟩
    | shapeUsed shape =>
      simp only [Event.entry, String.toList_append, isLine_append]
      exact ⟨by decide, by decide, by cases shape <;> decide⟩
    | brandSkipped entry =>
      simp only [Event.entry, String.toList_append, isLine_append]
      exact ⟨by decide, by decide, entry.isLine_quoted⟩
    | compiled pattern flagSum =>
      simp only [Event.entry, String.toList_append, isLine_append]
      exact ⟨by decide, ⟨⟨⟨by decide, Text.isLine_quoted pattern⟩, by decide⟩,
        isLine_toString flagSum⟩, by decide⟩
    | commandFailed command => exact absurd rfl (inner command)
  simp only [record, String.toList_append, isLine_append]
  exact ⟨⟨⟨by decide, entry.1⟩, by decide⟩, entry.2⟩

/-- The lines of a journal are those of its events. -/
theorem lines_join {events : List Event} (inner : ∀ event ∈ events, event.IsInner) :
    Text.lines (String.join (events.map line)).toList = events.map record := by
  have written : (String.join (events.map line)).toList =
      (events.map record).flatMap (· ++ ['\n']) := by
    simp only [String.toList_join, List.flatMap_map, toList_line]
  rw [written]
  refine Text.lines_flatMap fun text member => ?_
  obtain ⟨event, found, rfl⟩ := List.mem_map.mp member
  exact isLine_record (inner event found)

end Event

namespace CommandLine

/-- A run ended in an error: its command line was refused, the error was reported in a line on
standard error, or it ended the program. -/
def Report.IsFailure (report : Report) : Prop :=
  match report.ending with
  | .exited code => code = 2
  | .returned code =>
    code = 1 ∧ ∃ line ∈ Text.lines report.errors.toList, "error: ".toList <+: line
  | .failed _ => True

/-- No line of a journal is about an error, as long as it does not say that a command failed. -/
theorem not_prefix_of_mem_journal {left : Effects} (pending : left.IsPending) {line : List Char}
    (member : line ∈ Text.lines (journal left.events).toList) : ¬ "error: ".toList <+: line := by
  rw [journal, Event.lines_join pending] at member
  obtain ⟨event, _, rfl⟩ := List.mem_map.mp member
  -- Every record begins with its level.
  rintro ⟨rest, begins⟩
  simp only [Event.record, String.toList_append, List.append_assoc] at begins
  have heads : some 'e' = some 'D' := congrArg List.head? begins
  exact absurd heads (by decide)

/-- A command with a result says nothing on standard error that is about an error. -/
theorem not_isFailure_of_ok {world : World} {request : Request} {code : Nat} {left : Effects}
    (executed : execute request (.start world) = .ok code left) :
    ¬ (left.report request (.returned code) "").IsFailure := by
  have pending := keeps_isPending_execute request (.start world) fun _ member => nomatch member
  rw [Action.left_of_ok executed] at pending
  rintro ⟨-, line, member, begins⟩
  rw [Effects.report, String.append_empty] at member
  split at member
  · exact not_prefix_of_mem_journal pending member begins
  · cases member

/-- A run that ended in an error left no output, and all files as they were. -/
theorem output_of_isFailure {world : World} {line : List String}
    (failure : (run world line).IsFailure) :
    (run world line).output = "" ∧ (run world line).files = world.files := by
  unfold run at failure ⊢
  cases parsed : parse line with
  | error halt =>
    rw [parsed] at failure
    cases halt with
    | usage command? complaint => exact ⟨rfl, rfl⟩
    | version => cases failure
    | help command? => cases failure
  | ok request =>
    rw [parsed] at failure
    dsimp only at failure ⊢
    unfold answer at failure ⊢
    cases executed : execute request (.start world) with
    | ok code left =>
      rw [executed] at failure
      exact absurd failure (not_isFailure_of_ok executed)
    | error error left =>
      -- The command broke off with the files and the output that it had found.
      obtain ⟨sameWorld, sameOutput⟩ := failsSilently_execute request _ error left executed
      dsimp only
      split <;> exact ⟨sameOutput, congrArg World.files sameWorld⟩

/-- The command to write a pattern that does not close its group to a file. -/
theorem parse_custom :
    parse ["build", "--custom", "(", "--out=c"] =
      .ok ⟨false, .build, [.textField .custom "(", .out "c"]⟩ := by
  have own : IsOwn .build (Field.scalar .custom).spec "--custom" := isOwn_spec (by decide) _
  have custom : Means .build ["--custom", "("] [.textField .custom "("] :=
    means_value own rfl (by decide) rfl rfl
  have target : Means .build ["--out" ++ "=" ++ "c"] [.out "c"] := by
    have own : IsOwn .build ⟨["--out"], textValue .out⟩ "--out" :=
      ⟨by decide, by decide, by decide, rfl, by decide⟩
    exact means_attached own rfl rfl rfl
  exact parse_of_means (custom.append target)

theorem output_of_isFailure_custom :
    (run ⟨[("c", [0x7B])], ""⟩ ["build", "--custom", "(", "--out=c"]).IsFailure ∧
      (run ⟨[("c", [0x7B])], ""⟩ ["build", "--custom", "(", "--out=c"]).output = "" ∧
      (run ⟨[("c", [0x7B])], ""⟩ ["build", "--custom", "(", "--out=c"]).files =
        [("c", [0x7B])] := by
  have failure : (run ⟨[("c", [0x7B])], ""⟩ ["build", "--custom", "(", "--out=c"]).IsFailure := by
    obtain ⟨left, executed⟩ : ∃ left,
        execute ⟨false, .build, [.textField .custom "(", .out "c"]⟩
          (.start ⟨[("c", [0x7B])], ""⟩) =
            .error (.pattern "^($" ⟨.unterminatedGroup, some 2⟩) left :=
      ⟨⟨⟨[("c", [0x7B])], ""⟩, "", _⟩, by cbv⟩
    rw [run, parse_custom]
    simp only [answer, executed]
    have errors : ("error: Error generating regular expression: " ++
        "missing ), unterminated subpattern at position 1").toList ∈
          Text.lines ("" ++ errorLine (.pattern "^($" ⟨.unterminatedGroup, some 2⟩)).toList := by
      decide +kernel
    exact ⟨rfl, _, errors, by decide +kernel⟩
  exact ⟨failure, output_of_isFailure failure⟩

end CommandLine

end Patternwright
