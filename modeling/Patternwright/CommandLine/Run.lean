import Patternwright.CommandLine.Action

/-!
# Running a command line

A command either gives a result, which goes to standard output or a file, and an exit code, or it
breaks off with an error. Most errors are reported in one line on standard error with exit code one;
a few end the program. A wrong command line has exit code two. A verbose run puts its journal on
standard error.

Whatever the ending, the report has what the command did up to there.

## Main definitions

* `execute` — what is done for a request
* `run` — the report of a command line
* `write`, `writeDocument` — the result of nothing but writing
-/

namespace Patternwright.CommandLine

/-- How a run ends. -/
inductive Ending where
  /-- The command is done, with an exit code. -/
  | returned (code : Nat)
  /-- The command line was no request; the exit code says why. -/
  | exited (code : Nat)
  /-- An error ends the program. -/
  | failed (error : Error)

/-- What a run leaves behind. `errors` is what the program writes on standard error, without the
trace of where an error came from, which a verbose run has behind its last event, and without
warnings of the interpreter. -/
structure Report where
  ending : Ending
  output : String
  errors : String
  files : Directory

/-- The result of nothing but writing. -/
structure Reply where
  code : Nat
  output : String
  files : Directory

/-- The result of an action on some files. -/
def reply (files : Directory) (code : Nat) (action : Action Unit) : Except Error Reply :=
  match action (.start ⟨files, ""⟩) with
  | .ok _ left => .ok ⟨code, left.output, left.world.files⟩
  | .error error _ => .error error

/-- The result of writing a text to a path. -/
def write (files : Directory) (code : Nat) (text path : String) : Except Error Reply :=
  reply files code (Action.write text path)

/-- The result of writing a document to a path. -/
def writeDocument (files : Directory) (code : Nat) (value : Value) (path : String) :
    Except Error Reply :=
  reply files code (Action.writeDocument value path)

/-- The form that settings choose for a result. -/
def layoutOf (settings : List Setting) : Layout :=
  (last? (fun | .layout layout => some layout | _ => none) settings).getD .text

/-- The path that settings choose for a result. -/
def outOf (settings : List Setting) : String :=
  (last? (fun | .out path => some path | _ => none) settings).getD standardStream

/-- Writes the pattern of a matcher. -/
def executeBuild (settings : List Setting) : Action Nat := do
  let matcher ← Action.compile (← Action.configure settings)
  Action.present (layoutOf settings) matcher.toValue (matcher.text ++ "\n") (outOf settings)
  return 0

/-- What settings expect of samples. -/
def expectedOf? (settings : List Setting) : Option Verdict :=
  last? (fun | .expect verdict => some verdict | _ => none) settings

/-- The line of a sample. -/
def sampleLine (matched : Bool) (sample : String) : String :=
  (if matched then "MATCH" else "NO MATCH") ++ "\t" ++ sample

/-- The lines of some samples, and how many of these do not do what is expected of them. -/
structure Tally where
  lines : List String
  failures : Nat

/-- The tally with one more sample. -/
def Tally.add (matcher : Matcher) (expected? : Option Verdict) (tally : Tally) (sample : String) :
    Tally :=
  let matched := matcher.accepts sample
  let fails := expected?.any fun verdict => matched != (verdict == .accept)
  ⟨tally.lines ++ [sampleLine matched sample],
    if fails then tally.failures + 1 else tally.failures⟩

/-- The lines about samples, and the exit code: one if something is expected of them that some do
not do. -/
def judge (matcher : Matcher) (expected? : Option Verdict) (samples : List String) :
    List String × Nat :=
  let tally := samples.foldl (Tally.add matcher expected?) ⟨[], 0⟩
  let count := toString (samples.length - tally.failures)
  let summary :=
    match expected? with
    | some _ => [count ++ " of " ++ toString samples.length ++ " as expected"]
    | none => []
  (tally.lines ++ summary, if tally.failures = 0 then 0 else 1)

/-- Matches samples. -/
def executeTest (settings : List Setting) : Action Nat := do
  let matcher ← Action.compile (← Action.configure settings)
  let samples ← Action.gather settings
  let (lines, code) := judge matcher (expectedOf? settings) samples
  Action.write ("\n".intercalate lines ++ "\n") standardStream
  return code

/-- Writes an explanation, after a compilation that has to succeed. -/
def executeExplain (settings : List Setting) : Action Nat := do
  let config ← Action.configure settings
  let _ ← Action.compile config
  let explanation ← Action.explain config
  Action.present (layoutOf settings) explanation.toValue (explanation.toText ++ "\n") standardStream
  return 0

/-- All shapes with their fixed patterns, and all card brands, as a document. -/
def shapesDocument : Value :=
  .object [
    ("shapes", .object (Shape.all.map fun shape =>
      (shape.name, shape.fixed?.elim .null .text))),
    ("credit_cards", .object (CardBrand.all.map fun brand => (brand.name, .text brand.pattern)))]

/-- The line of a shape with its rank. -/
def shapeLine (rank : Nat) (shape : Shape) : String :=
  let number := toString rank
  String.ofList (List.replicate (2 - number.length) ' ') ++ number ++ ". " ++ shape.name ++
    match shape.fixed? with
    | some pattern => "\t" ++ pattern
    | none => ""

/-- The lines of all shapes and of the card brands. -/
def shapesText : String :=
  let lines := Shape.all.zipIdx.map fun (shape, index) => shapeLine (index + 1) shape
  let brands := "credit card brands: " ++ ", ".intercalate (CardBrand.all.map CardBrand.name)
  "\n".intercalate (lines ++ [brands]) ++ "\n"

/-- Writes the shapes. -/
def executeShapes (settings : List Setting) : Action Nat := do
  Action.present (layoutOf settings) shapesDocument shapesText standardStream
  return 0

/-- What is done for a request, up to its exit code. -/
def execute (request : Request) : Action Nat :=
  match request.command with
  | .build => executeBuild request.settings
  | .test => executeTest request.settings
  | .explain => executeExplain request.settings
  | .shapes => executeShapes request.settings

/-- The lines of a journal. -/
def journal (events : List Event) : String := String.join (events.map Event.line)

/-- The report of what a request has done, with a last line on standard error. -/
def Effects.report (left : Effects) (request : Request) (ending : Ending) (last : String) :
    Report where
  ending := ending
  output := left.output
  errors := (if request.isVerbose then journal left.events else "") ++ last
  files := left.world.files

/-- The line about an error. -/
def errorLine (error : Error) : String := "error: " ++ error.message ++ "\n"

/-- The report of a request. -/
def answer (world : World) (request : Request) : Report :=
  match execute request (.start world) with
  | .ok code left => left.report request (.returned code) ""
  | .error error left =>
    if error.isReported then
      let failed := Event.commandFailed request.command.name
      { left with events := left.events ++ [failed] }.report request (.returned 1) (errorLine error)
    else left.report request (.failed error) ""

/-- The version of the program. -/
def versionText : String := programName ++ " 1.0.0\n"

/-- The name under which a part of the command line complains. -/
def partName (command? : Option Command) : String :=
  match command? with
  | some command => programName ++ " " ++ command.name
  | none => programName

/-- The report of a command line that is no request. The complaint is reported without the summary
of the options that goes before it, and a request for help without the text of the help. -/
def refuse (world : World) : Halt → Report
  | .usage command? complaint =>
    ⟨.exited 2, "", partName command? ++ ": error: " ++ complaint ++ "\n", world.files⟩
  | .version => ⟨.exited 0, versionText, "", world.files⟩
  | .help _ => ⟨.exited 0, "", "", world.files⟩

/-- The report of a command line. -/
def run (world : World) (line : List String) : Report :=
  match parse line with
  | .ok request => answer world request
  | .error halt => refuse world halt

end Patternwright.CommandLine
