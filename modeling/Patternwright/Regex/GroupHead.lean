import Patternwright.Number.Numeral
import Patternwright.Regex.Escape
import Patternwright.Unicode.Identifier
import Patternwright.Unicode.Letter

/-!
# Reading the heads of groups

What stands between an opening parenthesis and the content of a group says what kind of group it is.
Some heads have no content after them: comments, named references and switches of options for the
whole pattern.

A group may refer to groups read before it, so reading keeps a `Ledger` of them.

## Main definitions

* `Ledger` — the groups, names and options seen so far
* `Ledger.reference` — a reference back to a group
* `GroupHead`, `readGroupHead` — the head of a group
-/

namespace Patternwright.Regex

/-- What a pattern has told so far. -/
structure Ledger where
  /-- The options that the pattern has switched on for its whole. -/
  flags : List Flag := []
  /-- The width of each group by its number, `none` while it is open. Number zero is the pattern. -/
  groups : List (Option Width) := [none]
  /-- The numbers of the named groups. -/
  names : List (String × Nat) := []
  /-- In a look-behind, the number of groups that there were before it. -/
  behindLimit : Option Nat := none
  /-- The group numbers that conditions have asked for, each with its first place. -/
  conditions : List (Nat × Nat) := []

namespace Ledger

/-- The group has been read to its end. -/
def isClosed (ledger : Ledger) (index : Nat) : Bool :=
  (ledger.groups[index]?.join).isSome

/-- The width of a group; groups that are not closed have none that anyone may ask for. -/
def groupWidth (ledger : Ledger) (index : Nat) : Width :=
  (ledger.groups[index]?.join).getD .zero

/-- Stops if a look-behind refers to a group that is open or that it contains. -/
def checkBehind (ledger : Ledger) (index : Nat) (rest : List Token) : Reading Unit :=
  match ledger.behindLimit with
  | none => .ok ()
  | some limit =>
    if !ledger.isClosed index then stop .openGroup (left rest)
    else if limit ≤ index then stop .groupInSameLookbehind (left rest)
    else .ok ()

/-- A reference back to a group that exists; `length` is the length of its text. -/
def reference (ledger : Ledger) (index length : Nat) (rest : List Token) : Reading Node := do
  if !ledger.isClosed index then stop .openGroup (left rest + length)
  ledger.checkBehind index rest
  return .backref index

/-- A new group, not yet closed. -/
def openGroup (ledger : Ledger) : Ledger := { ledger with groups := ledger.groups ++ [none] }

/-- The end of a group. -/
def closeGroup (ledger : Ledger) (index : Nat) (width : Width) : Ledger :=
  { ledger with groups := ledger.groups.set index (some width) }

end Ledger

/-- The kinds of groups that have content. -/
inductive Opener where
  | capture (index : Nat)
  | plain
  | scope (on off : List Flag)
  | atomic
  | ahead (negated : Bool)
  /-- A look-behind, with the ledger's limit outside it. -/
  | behind (negated : Bool) (outerLimit : Option Nat)
  | conditional (index : Nat)
  deriving DecidableEq, Repr

/-- What follows an opening parenthesis. -/
inductive GroupHead where
  /-- A group with content. -/
  | opens (opener : Opener)
  /-- A reference back to a group by its name. -/
  | reference (node : Node)
  /-- A comment. -/
  | comment
  /-- Options switched on for the whole pattern. -/
  | globalFlags (on : List Flag)

/-- A comment up to its closing parenthesis. -/
def readComment (start : Nat) : List Token → Reading (List Token)
  | [] => stop .unterminatedComment start
  | token :: rest => do
    settle rest
    if token = .plain ')' then return rest else readComment start rest

/-- Stops at a token that is no option: a letter is an unknown one, anything else is out of
place. -/
def stopAtFlag {α : Type} (token : Token) (otherwise : Cause) (rest : List Token) : Reading α :=
  let isLetter := match token with
    | .plain c => Unicode.isLetter c.toNat
    | _ => false
  stop (if isLetter then .unknownFlag else otherwise) (left rest + token.text.length)

/-- The options switched on, after those in `on`, and the sign that ends them. -/
def readFlagsOn (flag : Flag) (on : List Flag) :
    List Token → Reading (List Flag × Char × List Token)
  | [] => do
    checkOn []
    stop .missingFlagsEnd 0
  | token :: rest => do
    checkOn (token :: rest)
    settle rest
    match token with
    | .plain ')' => return (on ++ [flag], ')', rest)
    | .plain '-' => return (on ++ [flag], '-', rest)
    | .plain ':' => return (on ++ [flag], ':', rest)
    | .plain c =>
      match Flag.ofChar? c with
      | some next => readFlagsOn next (on ++ [flag]) rest
      | none => stopAtFlag token .missingFlagsEnd rest
    | _ => stopAtFlag token .missingFlagsEnd rest
where
  /-- Stops if the option cannot be switched on beside those before it. -/
  checkOn (rest : List Token) : Reading Unit := do
    if flag = .locale then stop .localeFlag (left rest)
    if flag.isRepertoire && on.any (fun other => other.isRepertoire && other != flag) then
      stop .incompatibleFlags (left rest)

/-- The options switched off, after those in `off`, up to the colon. -/
def readFlagsOff (flag : Flag) (off : List Flag) : List Token → Reading (List Flag × List Token)
  | [] => do
    if flag.isRepertoire then stop .repertoireFlagOff 0
    stop .missingColon 0
  | token :: rest => do
    if flag.isRepertoire then stop .repertoireFlagOff (left (token :: rest))
    settle rest
    match token with
    | .plain ':' => return (off ++ [flag], rest)
    | .plain c =>
      match Flag.ofChar? c with
      | some next => readFlagsOff next (off ++ [flag]) rest
      | none => stopAtFlag token .missingColon rest
    | _ => stopAtFlag token .missingColon rest

/-- The scope of a group that switches options `on`, from after the sign that ends them. -/
def readScope (on : List Flag) (sign : Char) (rest : List Token) :
    Reading (GroupHead × List Token) := do
  if on.any Flag.isGlobalOnly then stop .globalFlagOn (left rest + 1)
  if sign != '-' then return (.opens (.scope on []), rest)
  match rest with
  | [] => stop .missingFlag 0
  | token :: rest =>
    settle rest
    let flag? := match token with
      | .plain c => Flag.ofChar? c
      | _ => none
    match flag? with
    | none => stopAtFlag token .missingFlag rest
    | some flag =>
      let (off, rest) ← readFlagsOff flag [] rest
      if off.any Flag.isGlobalOnly then stop .globalFlagOff (left rest + 1)
      if on.any off.contains then stop .flagOnAndOff (left rest + 1)
      return (.opens (.scope on off), rest)

/-- A group name up to its terminator, with the check that it is a name. -/
def readGroupName (terminator : Char) (rest : List Token) : Reading (String × List Token) := do
  let (name, rest) ← readName terminator "group name" [] rest
  if !Unicode.isIdentifier name then
    stop (.badGroupName (String.ofList name)) (left rest + name.length + 1)
  return (String.ofList name, rest)

/-- Group numbers stay below this number. -/
def groupLimit : Nat := 1073741823

/-- The group number that a condition asks for, by name or number. -/
def readCondition (ledger : Ledger) (rest : List Token) :
    Reading (Ledger × Nat × List Token) := do
  let (name, rest) ← readName ')' "group name" [] rest
  let place := left rest + name.length + 1
  if Unicode.isIdentifier name then
    match ledger.names.lookup (String.ofList name) with
    | none => stop (.unknownGroupName (String.ofList name)) place
    | some index =>
      ledger.checkBehind index rest
      return (ledger, index, rest)
  else
    match Numeral.readInt? name with
    | some (.ofNat 0) => stop .badGroupNumber place
    | some (.ofNat index) =>
      if groupLimit ≤ index then stop (.invalidGroupReference index) place
      let ledger :=
        if ledger.conditions.any (·.1 == index) then ledger
        else { ledger with conditions := ledger.conditions ++ [(index, place)] }
      ledger.checkBehind index rest
      return (ledger, index, rest)
    | _ => stop (.badGroupName (String.ofList name)) place

/-- A capturing group with a name. -/
def nameGroup (ledger : Ledger) (name : String) (rest : List Token) : Reading Ledger :=
  match ledger.names.lookup name with
  | some earlier =>
    stop (.duplicateGroupName name ledger.groups.length earlier) (left rest + name.length + 1)
  | none => .ok { ledger with names := ledger.names ++ [(name, ledger.groups.length)] }

/-- The head of a group that starts with a `P`: a named group or a named reference. -/
def readNamedHead (ledger : Ledger) (rest : List Token) :
    Reading (Ledger × GroupHead × List Token) := do
  match rest with
  | .plain '<' :: rest =>
    settle rest
    let (name, rest) ← readGroupName '>' rest
    let ledger ← nameGroup ledger name rest
    return (ledger.openGroup, .opens (.capture ledger.groups.length), rest)
  | .plain '=' :: rest =>
    settle rest
    let (name, rest) ← readGroupName ')' rest
    match ledger.names.lookup name with
    | none => stop (.unknownGroupName name) (left rest + name.length + 1)
    | some index =>
      return (ledger, .reference (← ledger.reference index (name.length + 1) rest), rest)
  | [] => stop .unexpectedEnd 0
  | token :: rest =>
    settle rest
    stop (.unknownExtension ("P" ++ String.ofList token.text)) (left rest + token.text.length + 2)

/-- A look-behind, or an extension that does not exist. -/
def readBehindHead (ledger : Ledger) (rest : List Token) :
    Reading (Ledger × GroupHead × List Token) := do
  match rest with
  | [] => stop .unexpectedEnd 0
  | token :: rest =>
    settle rest
    let behind (negated : Bool) : Ledger × GroupHead × List Token :=
      ({ ledger with behindLimit := ledger.behindLimit.or (some ledger.groups.length) },
        .opens (.behind negated ledger.behindLimit), rest)
    match token with
    | .plain '=' => return behind false
    | .plain '!' => return behind true
    | _ =>
      stop (.unknownExtension ("<" ++ String.ofList token.text))
        (left rest + token.text.length + 2)

/-- The head of a group, after its parenthesis. -/
def readGroupHead (ledger : Ledger) (rest : List Token) :
    Reading (Ledger × GroupHead × List Token) := do
  let start := left rest + 1
  match rest with
  | .plain '?' :: rest =>
    settle rest
    match rest with
    | [] => stop .unexpectedEnd 0
    | token :: rest =>
      settle rest
      match token with
      | .plain 'P' => readNamedHead ledger rest
      | .plain ':' => return (ledger, .opens .plain, rest)
      | .plain '#' => return (ledger, .comment, ← readComment start rest)
      | .plain '=' => return (ledger, .opens (.ahead false), rest)
      | .plain '!' => return (ledger, .opens (.ahead true), rest)
      | .plain '<' => readBehindHead ledger rest
      | .plain '(' =>
        let (ledger, index, rest) ← readCondition ledger rest
        return (ledger, .opens (.conditional index), rest)
      | .plain '>' => return (ledger, .opens .atomic, rest)
      | .plain '-' =>
        let (head, rest) ← readScope [] '-' rest
        return (ledger, head, rest)
      | .plain c =>
        match Flag.ofChar? c with
        | none =>
          stop (.unknownExtension (String.ofList token.text)) (left rest + token.text.length + 1)
        | some flag =>
          let (on, sign, rest) ← readFlagsOn flag [] rest
          if sign == ')' then return (ledger, .globalFlags on, rest)
          let (head, rest) ← readScope on sign rest
          return (ledger, head, rest)
      | _ => stop (.unknownExtension (String.ofList token.text)) (left rest + token.text.length + 1)
  | rest => return (ledger.openGroup, .opens (.capture ledger.groups.length), rest)

end Patternwright.Regex
