import Patternwright.Number.Digit
import Patternwright.Regex.Fault
import Patternwright.Regex.Node
import Patternwright.Regex.Token
import Patternwright.Unicode.Name

/-!
# Reading escapes

What a backslash and the character after it stand for, inside a bracketed set and in the open. An
escape may take more tokens: hexadecimal and octal digits, a character name in braces, a second
digit of a group number.

Every function here takes the tokens after those it has been given and returns the tokens that it
leaves. A reader that comes to a lone backslash at the end of the text stops there, whatever else it
was about to say: `settle` is the check after each token taken.

## Main definitions

* `settle` — stops at a lone backslash that is all that is left
* `readName` — a name up to its terminator
* `readCharEscape?` — the escapes that mean the same everywhere: character codes and names
* `readSetEscape` — an escape in a bracketed set
-/

namespace Patternwright.Regex

/-- Reading goes on or stops at a fault. -/
abbrev Reading := Except Fault

/-- Stops with a cause at the place where `left` characters are left. -/
def stop {α : Type} (cause : Cause) (left : Nat) : Reading α := .error ⟨cause, some left⟩

/-- Nothing, unless a lone backslash is all that is left. -/
def settle (rest : List Token) : Reading Unit :=
  match rest with
  | [.dangling] => stop .danglingEscape 1
  | _ => .ok ()

/-- The tokens to go on with after a construct that began after `before` and left `rest`: as many of
the last ones as the construct has left. -/
def resume (before rest : List Token) : List Token := before.drop (before.length - rest.length)

theorem length_resume_le (before rest : List Token) :
    (resume before rest).length ≤ before.length := by
  simp [resume]

@[simp] theorem resume_append (taken rest : List Token) : resume (taken ++ rest) rest = rest := by
  simp [resume]

@[simp] theorem resume_self (rest : List Token) : resume rest rest = rest := by simp [resume]

/-- At most `most` characters in front that satisfy a test, and the tokens after them. -/
def takeChars (test : Char → Bool) : (most : Nat) → List Token → List Char × List Token
  | most + 1, .plain c :: rest =>
    if test c then
      let (taken, rest) := takeChars test most rest
      (c :: taken, rest)
    else ([], .plain c :: rest)
  | _, rest => ([], rest)

/-- The text up to a terminator, which is taken too. -/
def readName (terminator : Char) (what : String) (name : List Char := []) :
    List Token → Reading (List Char × List Token)
  | [] =>
    if name.isEmpty then stop (.missingName what) 0
    else stop (.unterminatedName terminator) name.length
  | token :: rest => do
    settle rest
    if token = .plain terminator then
      if name.isEmpty then stop (.missingName what) (left rest + 1) else return (name, rest)
    else readName terminator what (name ++ token.text) rest

/-- The codes that fit into a machine word are below this one. -/
def wordLimit : Nat := 0x80000000

/-- A character code in exactly `count` hexadecimal digits after the letter `letter`. -/
def readHexCode (letter : Char) (count : Nat) (rest : List Token) :
    Reading (Nat × List Token) := do
  let (digits, rest) := takeChars (fun c => (Digit.value? c).isSome) count rest
  settle rest
  let text := '\\' :: letter :: digits
  if digits.length = count then
    let code := Digit.numberOf 16 digits
    if code ≤ 0x10FFFF then return (code, rest)
    else if wordLimit ≤ code then .error { cause := .codeTooLarge }
    else stop (.badEscape (String.ofList text)) (left rest + text.length)
  else stop (.incompleteEscape (String.ofList text)) (left rest + text.length)

/-- A character given by its name in braces. -/
def readNamedChar : List Token → Reading (Nat × List Token)
  | .plain '{' :: rest => do
    settle rest
    let (name, rest) ← readName '}' "character name" [] rest
    match Unicode.characterNamed? (String.ofList name) with
    | some code => return (code, rest)
    | none => stop (.unknownCharacterName (String.ofList name)) (left rest + name.length + 4)
  | rest => stop .missingBrace (left rest)

/-- The character codes of the escapes that stand for one control character or a backslash. -/
def controlEscape? : Char → Option Nat
  | 'a' => some 0x07
  | 'b' => some 0x08
  | 'f' => some 0x0C
  | 'n' => some 0x0A
  | 'r' => some 0x0D
  | 't' => some 0x09
  | 'v' => some 0x0B
  | '\\' => some 0x5C
  | _ => none

/-- The named class of an escape, and whether it is the complement. -/
def categoryEscape? : Char → Option (Bool × Category)
  | 'd' => some (false, .digit)
  | 'D' => some (true, .digit)
  | 's' => some (false, .space)
  | 'S' => some (true, .space)
  | 'w' => some (false, .word)
  | 'W' => some (true, .word)
  | _ => none

/-- The escapes by code or name, which mean the same everywhere; `none` for any other letter. -/
def readCharEscape? (letter : Char) (rest : List Token) : Option (Reading (Nat × List Token)) :=
  match letter with
  | 'x' => some (readHexCode 'x' 2 rest)
  | 'u' => some (readHexCode 'u' 4 rest)
  | 'U' => some (readHexCode 'U' 8 rest)
  | 'N' => some (readNamedChar rest)
  | _ => none

/-- An escaped character without a meaning of its own stands for itself, but letters are kept free
for new meanings. -/
def readPlainEscape (letter : Char) (rest : List Token) : Reading (Nat × List Token) :=
  if letter.isAlpha then stop (.badEscape (String.ofList ['\\', letter])) (left rest + 2)
  else .ok (letter.toNat, rest)

/-- The greatest code of an octal escape. -/
def octalLimit : Nat := 0o377

/-- The code of an octal escape with the given digits. -/
def octalCode (digits : List Char) (rest : List Token) : Reading (Nat × List Token) :=
  let code := Digit.numberOf 8 digits
  if code ≤ octalLimit then .ok (code, rest)
  else stop (.octalOutOfRange (String.ofList ('\\' :: digits))) (left rest + digits.length + 1)

/-- An escape in a bracketed set. -/
def readSetEscape (letter : Char) (rest : List Token) : Reading (SetItem × List Token) := do
  if let some code := controlEscape? letter then return (.one code, rest)
  if let some (negated, category) := categoryEscape? letter then
    return (.named negated category, rest)
  let (code, rest) ←
    if let some reading := readCharEscape? letter rest then reading
    else if Digit.isOctal letter then do
      let (digits, rest) := takeChars Digit.isOctal 2 rest
      settle rest
      octalCode (letter :: digits) rest
    else if letter.isDigit then
      stop (.badEscape (String.ofList ['\\', letter])) (left rest + 2)
    else readPlainEscape letter rest
  return (.one code, rest)

end Patternwright.Regex
