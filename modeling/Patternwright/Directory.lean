import Patternwright.Error
import Patternwright.Text.Lines

/-!
# Files

Commands read and write files of one directory, which holds nothing but files. A path names a file
of it, the directory itself, or nothing.

## Main definitions

* `Directory` — the files by name
* `Directory.read`, `Directory.put` — the content of a file
* `Directory.target` — the file that a path asks to write
* `Directory.readText`, `Directory.readSamples` — the text of a file, and its lines
-/

namespace Patternwright

/-- The files of a directory, each with its name and its bytes. -/
abbrev Directory := List (String × List UInt8)

/-- What a path leads to. -/
inductive Place where
  | file (name : String)
  | directory
  deriving DecidableEq, Repr

/-- The most bytes that the name of a file has. -/
def nameLimit : Nat := 255

namespace Directory

/-- The names between the slashes of a path; a point alone stays in the same directory. -/
def names (path : String) : List String :=
  (path.splitOn "/").filter fun name => name != "" && name != "."

/-- What a path leads to, if the way there goes through directories. The file need not exist. -/
def locate (files : Directory) (path : String) : Except Error Place :=
  if path.contains '\x00' then .error .nullInPath
  else if path = "" then .error (.noSuchFile path)
  else
    match names path with
    | [] | [".."] => .ok .directory
    | name :: more =>
      if nameLimit < name.utf8ByteSize then .error (.nameTooLong path)
      else if path.startsWith "/" || name = ".." then .error (.noSuchFile path)
      else if more.isEmpty && !path.endsWith "/" then .ok (.file name)
      else if (files.lookup name).isSome then .error (.notADirectory path)
      else .error (.noSuchFile path)

/-- The content of a file. -/
def read (files : Directory) (path : String) : Except Error (List UInt8) := do
  match ← files.locate path with
  | .directory => .error (.isDirectory path)
  | .file name =>
    match files.lookup name with
    | some bytes => return bytes
    | none => .error (.noSuchFile path)

/-- The files with other content in one of them. -/
def put (name : String) (bytes : List UInt8) : Directory → Directory
  | [] => [(name, bytes)]
  | (n, b) :: files => if n = name then (name, bytes) :: files else (n, b) :: put name bytes files

/-- The file that a path asks to write; it need not exist. -/
def target (files : Directory) (path : String) : Except Error String := do
  match ← files.locate path with
  | .directory => .error (.isDirectory path)
  | .file name => return name

/-- The text of a file. -/
def readText (files : Directory) (path : String) : Except Error (List Char) := do
  match Encoding.decodeWhole (← files.read path) with
  | .ok text => return Text.unifyBreaks text
  | .error fault => .error (.encoding fault)

/-- The lines of a file that are not blank. -/
def readSamples (files : Directory) (path : String) : Except Error (List String) := do
  match Encoding.decodeInBlocks (← files.read path) with
  | .ok text => return Text.samples text
  | .error fault => .error (.encoding fault)

end Directory

end Patternwright
