import Patternwright.Text.Quoted

/-!
# Faults in a pattern

Why a text is not a pattern, and where; or why the text of a pattern cannot be written. A reader
reports the place by the count of characters left from there to the end of the text; the message
counts from the start, and in a text of several lines gives line and column too.

## Main definitions

* `Regex.Cause`, `Cause.message` — what is wrong
* `Regex.Fault` — a cause and its place
* `Fault.message` — the wording for a given pattern text
-/

namespace Patternwright.Regex

/-- What can be wrong with a pattern. -/
inductive Cause where
  | danglingEscape
  | badEscape (text : String)
  | incompleteEscape (text : String)
  | octalOutOfRange (text : String)
  | missingBrace
  | unknownCharacterName (name : String)
  | missingName (what : String)
  | unterminatedName (terminator : Char)
  | badGroupName (name : String)
  | unknownGroupName (name : String)
  | badGroupNumber
  | duplicateGroupName (name : String) (index earlier : Nat)
  | invalidGroupReference (index : Nat)
  | openGroup
  | groupInSameLookbehind
  | manyConditionalBranches
  | unterminatedSet
  | badRange (first last : String)
  | leastAboveMost
  | nothingToRepeat
  | multipleRepeat
  | unexpectedEnd
  | unknownExtension (text : String)
  | unterminatedComment
  | unterminatedGroup
  | unbalancedParenthesis
  | globalFlagsNotAtStart
  | localeFlag
  | incompatibleFlags
  | unknownFlag
  | missingFlagsEnd
  | missingFlag
  | missingColon
  | globalFlagOn
  | globalFlagOff
  | repertoireFlagOff
  | flagOnAndOff
  | lookbehindTooLong
  | lookbehindNotFixed
  | repetitionInTemplate (kind : String)
  /-- A repetition count beyond the largest one. -/
  | countTooLarge
  /-- A character code that does not even fit into a machine word. -/
  | codeTooLarge
  /-- ASCII and all scripts asked for at the same time. -/
  | repertoireConflict
  /-- A count written with more digits than a number may have. -/
  | countTooLong (digits : Nat)
  /-- A count that needs more digits than a number may have, so that it cannot be written. -/
  | countUnwritable
  deriving DecidableEq, Repr

namespace Cause

/-- The wording of a cause. -/
def message : Cause → String
  | danglingEscape => "bad escape (end of pattern)"
  | badEscape text => "bad escape " ++ text
  | incompleteEscape text => "incomplete escape " ++ text
  | octalOutOfRange text => "octal escape value " ++ text ++ " outside of range 0-0o377"
  | missingBrace => "missing \x7b"
  | unknownCharacterName name => "undefined character name " ++ Text.quoted name
  | missingName what => "missing " ++ what
  | unterminatedName terminator => "missing " ++ terminator.toString ++ ", unterminated name"
  | badGroupName name => "bad character in group name " ++ Text.quoted name
  | unknownGroupName name => "unknown group name " ++ Text.quoted name
  | badGroupNumber => "bad group number"
  | duplicateGroupName name index earlier =>
    "redefinition of group name " ++ Text.quoted name ++ " as group " ++ toString index ++
      "; was group " ++ toString earlier
  | invalidGroupReference index => "invalid group reference " ++ toString index
  | openGroup => "cannot refer to an open group"
  | groupInSameLookbehind =>
    "cannot refer to group defined in the same lookbehind subpattern"
  | manyConditionalBranches => "conditional backref with more than two branches"
  | unterminatedSet => "unterminated character set"
  | badRange first last => "bad character range " ++ first ++ "-" ++ last
  | leastAboveMost => "min repeat greater than max repeat"
  | nothingToRepeat => "nothing to repeat"
  | multipleRepeat => "multiple repeat"
  | unexpectedEnd => "unexpected end of pattern"
  | unknownExtension text => "unknown extension ?" ++ text
  | unterminatedComment => "missing ), unterminated comment"
  | unterminatedGroup => "missing ), unterminated subpattern"
  | unbalancedParenthesis => "unbalanced parenthesis"
  | globalFlagsNotAtStart => "global flags not at the start of the expression"
  | localeFlag => "bad inline flags: cannot use 'L' flag with a str pattern"
  | incompatibleFlags => "bad inline flags: flags 'a', 'u' and 'L' are incompatible"
  | unknownFlag => "unknown flag"
  | missingFlagsEnd => "missing -, : or )"
  | missingFlag => "missing flag"
  | missingColon => "missing :"
  | globalFlagOn => "bad inline flags: cannot turn on global flag"
  | globalFlagOff => "bad inline flags: cannot turn off global flag"
  | repertoireFlagOff => "bad inline flags: cannot turn off flags 'a', 'u' and 'L'"
  | flagOnAndOff => "bad inline flags: flag turned on and off"
  | lookbehindTooLong => "looks too much behind"
  | lookbehindNotFixed => "look-behind requires fixed-width pattern"
  | repetitionInTemplate kind => "internal: unsupported template operator " ++ kind
  | countTooLarge => "the repetition number is too large"
  | codeTooLarge => "Python int too large to convert to C int"
  | repertoireConflict => "ASCII and UNICODE flags are incompatible"
  | countTooLong digits =>
    "Exceeds the limit (4300 digits) for integer string conversion: value has " ++
      toString digits ++ " digits; use sys.set_int_max_str_digits() to increase the limit"
  | countUnwritable =>
    "Exceeds the limit (4300 digits) for integer string conversion; " ++
      "use sys.set_int_max_str_digits() to increase the limit"

/-- The cause is about the form of the pattern, and not about the size of a number or about options
that do not go together. -/
def isOfForm : Cause → Bool
  | countTooLarge | codeTooLarge | repertoireConflict | countTooLong _ | countUnwritable => false
  | _ => true

/-- The cause is a number past the largest one of its kind. -/
def isOverflow : Cause → Bool
  | countTooLarge | codeTooLarge => true
  | _ => false

end Cause

/-- A cause, and how many characters are left from its place to the end of the pattern; some causes
have no place. -/
structure Fault where
  cause : Cause
  left? : Option Nat := none
  deriving DecidableEq, Repr

/-- The wording of a fault in a pattern: the cause, the place counted from the start, and in a
pattern of several lines also line and column, both counted from one. -/
def Fault.message (pattern : String) (fault : Fault) : String :=
  match fault.left? with
  | none => fault.cause.message
  | some left =>
    let chars := pattern.toList
    let offset := chars.length - left
    let place := " at position " ++ toString offset
    if chars.contains '\n' then
      let before := chars.take offset
      let line := before.count '\n' + 1
      let column := (before.reverse.takeWhile (· != '\n')).length + 1
      fault.cause.message ++ place ++
        " (line " ++ toString line ++ ", column " ++ toString column ++ ")"
    else fault.cause.message ++ place

end Patternwright.Regex
