import Patternwright.Regex.Escape

/-!
# Reading bracketed sets

A set is a row of members up to the closing bracket; a bracket that stands first is a member. Two
literals with a dash between them are a range; a dash that stands last is a member.

## Main definitions

* `readSet` — a set from after its opening bracket
* `CharTest.ofSet` — the test for the members of a set
-/

namespace Patternwright.Regex

/-- One member of a set, or one end of a range. -/
def readSetAtom (token : Token) (rest : List Token) : Reading (SetItem × List Token) :=
  match token with
  | .plain c => .ok (.one c.toNat, rest)
  | .escaped c => readSetEscape c rest
  | .dangling => stop .danglingEscape 1

/-- A range from its two ends, which have to be literals in order. The message names the ends by
their first tokens. -/
def rangeOf (first last : SetItem) (firstToken lastToken : Token) (rest : List Token) :
    Reading SetItem :=
  let bad := stop
    (.badRange (String.ofList firstToken.text) (String.ofList lastToken.text))
    (left rest + firstToken.text.length + 1 + lastToken.text.length)
  match first, last with
  | .one lo, .one hi => if hi < lo then bad else .ok (.range lo hi)
  | _, _ => bad

/-- The members of a set up to its closing bracket, after those in `items`. `start` is the count of
characters left at the opening bracket. -/
def readMembers (start : Nat) (items : List SetItem) :
    List Token → Reading (List SetItem × List Token)
  | [] => stop .unterminatedSet start
  | token :: rest => do
    settle rest
    if token = .plain ']' && !items.isEmpty then return (items, rest)
    match ← readSetAtom token rest with
    | (item, .plain '-' :: afterDash) =>
      settle afterDash
      match afterDash with
      | [] => stop .unterminatedSet start
      | lastToken :: afterLast =>
        settle afterLast
        if lastToken = .plain ']' then return (items ++ [item, .one '-'.toNat], afterLast)
        let (last, after) ← readSetAtom lastToken afterLast
        let range ← rangeOf item last token lastToken after
        readMembers start (items ++ [range]) (resume rest after)
    | (item, after) => readMembers start (items ++ [item]) (resume rest after)
termination_by tokens => tokens.length
decreasing_by all_goals grind [length_resume_le]

/-- The test for the members of a set. A set of one literal is a literal. -/
def CharTest.ofSet (negated : Bool) (items : List SetItem) : CharTest :=
  match items.eraseDups with
  | [.one code] => if negated then .other code else .one code
  | items => .set negated items

/-- A set, after its opening bracket. -/
def readSet (rest : List Token) : Reading (CharTest × List Token) := do
  let start := left rest + 1
  match rest with
  | .plain '^' :: rest =>
    settle rest
    let (items, rest) ← readMembers start [] rest
    return (.ofSet true items, rest)
  | rest =>
    let (items, rest) ← readMembers start [] rest
    return (.ofSet false items, rest)

end Patternwright.Regex
