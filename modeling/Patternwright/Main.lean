import Patternwright.CommandLine.Run

/-!
# The program

Runs a command line on the files of the working directory: reads the files that its settings name,
and standard input if one of them is the path for it, and carries out what the report says.

## Main definitions

* `main` — the program
-/

namespace Patternwright.CommandLine

/-- The paths that a command reads. -/
def inputPaths (settings : List Setting) : List String :=
  settings.filterMap fun
    | .document path | .samples path => some path
    | _ => none

/-- The files at some paths. -/
def gatherFiles : List String → IO Directory
  | [] => return []
  | path :: paths => do
    let files ← gatherFiles paths
    match Directory.locate [] path with
    | .ok (.file name) =>
      try return (name, (← IO.FS.readBinFile name).toList) :: files
      catch _ => return files
    | _ => return files

/-- All of standard input. -/
partial def readInput (stream : IO.FS.Stream) : IO String := do
  let line ← stream.getLine
  if line.isEmpty then return "" else return line ++ (← readInput stream)

/-- What the settings of a command line can read. -/
def gatherWorld (line : List String) : IO World := do
  match parse line with
  | .error _ => return ⟨[], ""⟩
  | .ok request =>
    let paths := inputPaths request.settings
    let input ← if paths.contains standardStream then readInput (← IO.getStdin) else pure ""
    return ⟨← gatherFiles paths, input⟩

/-- Writes the files that are not as they were before. -/
def writeChanges (before : Directory) : Directory → IO Unit
  | [] => return ()
  | (name, bytes) :: files => do
    if before.lookup name != some bytes then
      IO.FS.writeBinFile name ⟨bytes.toArray⟩
    writeChanges before files

end Patternwright.CommandLine

open Patternwright.CommandLine in
/-- Runs the command line; an error that ends the program is told on standard error. -/
def main (line : List String) : IO UInt32 := do
  let world ← gatherWorld line
  let report := run world line
  writeChanges world.files report.files
  IO.print report.output
  IO.eprint report.errors
  match report.ending with
  | .returned code | .exited code => return code.toUInt32
  | .failed error =>
    IO.eprintln error.message
    return 1
