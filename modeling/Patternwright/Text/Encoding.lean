import Patternwright.Text.Quoted

/-!
# Encoded text

Files hold text in UTF-8. Reading goes through the bytes once; a byte that cannot stand where it is
ends it with a fault, and so does a file that ends inside a character.

A text is read as a whole or block by block. A block may end inside a character, whose bytes are
then put before the next block. Faults give their place in what was decoded at that moment: the
whole file, or one block together with the bytes before it.

## Main definitions

* `Encoding.encode` — the bytes of a text
* `Encoding.decodeWhole`, `Encoding.decodeInBlocks` — the text of bytes
* `Encoding.Fault`, `Fault.message` — why bytes are not text
-/

namespace Patternwright.Encoding

/-- What is wrong with a sequence of bytes. -/
inductive Cause where
  | startByte
  | continuationByte
  | endOfData
  deriving DecidableEq, Repr

/-- A sequence of bytes that is not a character: where it starts, its first byte and how many bytes
it has up to the one that is wrong. -/
structure Fault where
  cause : Cause
  place : Nat
  first : UInt8
  length : Nat
  deriving DecidableEq, Repr

namespace Fault

/-- The wording of what is wrong. -/
def reason (fault : Fault) : String :=
  match fault.cause with
  | .startByte => "invalid start byte"
  | .continuationByte => "invalid continuation byte"
  | .endOfData => "unexpected end of data"

/-- The wording of a fault. -/
def message (fault : Fault) : String :=
  let subject :=
    if fault.length = 1 then
      "byte 0x" ++ String.ofList (Text.hex 2 fault.first.toNat) ++ " in position " ++
        toString fault.place
    else
      "bytes in position " ++ toString fault.place ++ "-" ++
        toString (fault.place + fault.length - 1)
  "'utf-8' codec can't decode " ++ subject ++ ": " ++ fault.reason

end Fault

/-- The bytes of a text. -/
def encode (text : List Char) : List UInt8 := text.flatMap String.utf8EncodeChar

/-- A character that has been begun: its first byte, the count and code of the bytes so far, how
many are missing, and between which bounds the next one is. -/
structure Begun where
  first : UInt8
  length : Nat
  code : Nat
  missing : Nat
  low : UInt8
  high : UInt8
  deriving DecidableEq, Repr

/-- The character that a byte begins. Bytes that could only begin a longer form than necessary, a
surrogate or a code past the last one are ruled out here or by the bounds of the second byte. -/
def Begun.ofByte? (b : UInt8) : Option Begun :=
  if b < 0xC2 then none
  else if b < 0xE0 then some ⟨b, 1, b.toNat - 0xC0, 1, 0x80, 0xBF⟩
  else if b < 0xF0 then
    some ⟨b, 1, b.toNat - 0xE0, 2, if b = 0xE0 then 0xA0 else 0x80, if b = 0xED then 0x9F else 0xBF⟩
  else if b < 0xF5 then
    some ⟨b, 1, b.toNat - 0xF0, 3, if b = 0xF0 then 0x90 else 0x80, if b = 0xF4 then 0x8F else 0xBF⟩
  else none

/-- The character with one more byte. -/
def Begun.push (begun : Begun) (b : UInt8) : Begun :=
  { begun with
    length := begun.length + 1
    code := begun.code * 64 + (b.toNat - 0x80)
    missing := begun.missing - 1
    low := 0x80
    high := 0xBF }

/-- A fault at a character that has been begun. -/
def Begun.fault (begun : Begun) (cause : Cause) (stop : Nat) : Fault :=
  ⟨cause, stop - begun.length, begun.first, begun.length⟩

/-- The characters of bytes, and the one that they end inside. `place` counts the bytes before. -/
def decodeFrom (begun? : Option Begun) (place : Nat) :
    List UInt8 → Except Fault (List Char × Option Begun)
  | [] => .ok ([], begun?)
  | b :: rest =>
    match begun? with
    | none =>
      if b < 0x80 then do
        let (text, last?) ← decodeFrom none (place + 1) rest
        return (Char.ofNat b.toNat :: text, last?)
      else
        match Begun.ofByte? b with
        | none => .error ⟨.startByte, place, b, 1⟩
        | some begun => decodeFrom (some begun) (place + 1) rest
    | some begun =>
      if b < begun.low ∨ begun.high < b then .error (begun.fault .continuationByte place)
      else if (begun.push b).missing = 0 then do
        let (text, last?) ← decodeFrom none (place + 1) rest
        return (Char.ofNat (begun.push b).code :: text, last?)
      else decodeFrom (some (begun.push b)) (place + 1) rest

/-- The text of a whole file. -/
def decodeWhole (bytes : List UInt8) : Except Fault (List Char) := do
  match ← decodeFrom none 0 bytes with
  | (text, none) => return text
  | (_, some begun) => .error (begun.fault .endOfData bytes.length)

/-- The count of bytes in a block. -/
def blockSize : Nat := 8192

/-- The text of a file that is read block by block, after a character begun in an earlier block. -/
def decodeBlocks (begun? : Option Begun) (bytes : List UInt8) : Except Fault (List Char) := do
  let before := (begun?.map (·.length)).getD 0
  let (text, last?) ← decodeFrom begun? before (bytes.take blockSize)
  if bytes.length ≤ blockSize then
    match last? with
    | none => return text
    | some begun => .error (begun.fault .endOfData begun.length)
  else return text ++ (← decodeBlocks last? (bytes.drop blockSize))
termination_by bytes.length
decreasing_by
  simp only [List.length_drop, blockSize] at *
  omega

/-- The text of a file that is read block by block. -/
def decodeInBlocks (bytes : List UInt8) : Except Fault (List Char) := decodeBlocks none bytes

end Patternwright.Encoding
