import Patternwright.Regex.Options
import Patternwright.Unicode.Blank
import Patternwright.Unicode.Decimal
import Patternwright.Unicode.LetterCase
import Patternwright.Unicode.Word

/-!
# Tests of one character

The part of a pattern that looks at one character: a literal, the dot, a bracketed set. Literals
and set members are code points, not characters, because an escape may name a surrogate; such a
member matches nothing.

When case is ignored, a character is compared by its *folded* form, its lower case. A literal then
accepts what folds like it or like a sibling of it. In a set the folded character is put to every
member, as soon as one member of the set is cased.

## Main definitions

* `Regex.Category` — digits, white space, word characters
* `Regex.SetItem`, `Regex.CharTest` — the tests
* `CharTest.accepts` — whether a test accepts a character under given options
-/

namespace Patternwright.Regex

/-- A named class of characters. -/
inductive Category where
  | digit
  | space
  | word
  deriving DecidableEq, Repr

/-- Membership in a named class, over all scripts or over ASCII alone. -/
def Category.contains (options : Options) (category : Category) (code : Nat) : Bool :=
  match category with
  | .digit =>
    if options.ascii then 0x30 ≤ code && code ≤ 0x39 else Unicode.isDecimal code
  | .space =>
    if options.ascii then code == 0x20 || (0x09 ≤ code && code ≤ 0x0D) else Unicode.isBlank code
  | .word =>
    if options.ascii then code < 0x80 && Unicode.isWord code else Unicode.isWord code

/-- A member of a bracketed set. -/
inductive SetItem where
  | one (code : Nat)
  | range (first last : Nat)
  | named (negated : Bool) (category : Category)
  deriving DecidableEq, Repr

/-- A test of one character. -/
inductive CharTest where
  /-- The dot. -/
  | any
  /-- A literal. -/
  | one (code : Nat)
  /-- A negated set of one literal. -/
  | other (code : Nat)
  /-- A set. -/
  | set (negated : Bool) (items : List SetItem)
  deriving DecidableEq, Repr

namespace Options

/-- The folded form of a character. -/
def fold (options : Options) (code : Nat) : Nat :=
  if options.ascii then
    if code < 0x80 then Unicode.lowerCase code else code
  else Unicode.lowerCase code

/-- Folding makes some difference to the literal `code`. -/
def isCased (options : Options) (code : Nat) : Bool :=
  if options.ascii then code < 0x80 && Unicode.isLetter code else Unicode.isCased code

/-- The folded characters that are equal to a folded character when case is ignored, itself
apart. -/
def siblings (options : Options) (folded : Nat) : List Nat :=
  if options.ascii then [] else Unicode.siblings folded

/-- The characters that fold to `folded`. -/
def unfold (options : Options) (folded : Nat) : List Nat :=
  let lowered := if options.ascii then
      if 0x61 ≤ folded ∧ folded ≤ 0x7A then [folded - 0x20] else []
    else Unicode.lowerCaseOf folded
  if options.fold folded = folded then folded :: lowered else lowered

/-- Some character from `first` to `last` is cased. -/
def anyCased (options : Options) (first last : Nat) : Bool :=
  if options.ascii then
    (max first 0x41 ≤ min last 0x5A : Bool) || (max first 0x61 ≤ min last 0x7A : Bool)
  else Unicode.anyCased first last

end Options

/-- The last code point of the basic plane. Set members beyond it take part in comparisons that
ignore case in a plainer way: a literal is compared as it stands, a range also holds a character
whose upper case it holds. -/
def basicPlaneEnd : Nat := 0xFFFF

namespace SetItem

/-- The member makes its set fold the characters it is asked about. -/
def isCased (options : Options) : SetItem → Bool
  | one code => basicPlaneEnd < code || options.isCased code
  | range first last => basicPlaneEnd < last || options.anyCased first last
  | named _ _ => false

/-- Membership of a character as it stands. -/
def contains (options : Options) (code : Nat) : SetItem → Bool
  | one member => code == member
  | range first last => first ≤ code && code ≤ last
  | named negated category => category.contains options code != negated

/-- Membership of a folded character when case is ignored: some character of the member folds to it
or to a sibling of it. -/
def containsFolded (options : Options) (folded : Nat) : SetItem → Bool
  | one member =>
    if basicPlaneEnd < member then folded == member
    else options.fold member == folded || (options.siblings (options.fold member)).contains folded
  | range first last =>
    let inBasicPart (code : Nat) : Bool := first ≤ code && code ≤ min last basicPlaneEnd
    (options.unfold folded).any inBasicPart ||
      (options.siblings folded).any (fun sibling => (options.unfold sibling).any inBasicPart) ||
      (basicPlaneEnd < last &&
        ((first ≤ folded && folded ≤ last) ||
          (first ≤ Unicode.upperCase folded && Unicode.upperCase folded ≤ last)))
  | named negated category => category.contains options folded != negated

end SetItem

/-- A literal accepts a character: the same one or, when case is ignored, one that folds alike. -/
def literalAccepts (options : Options) (literal code : Nat) : Bool :=
  if options.ignoreCase && options.isCased literal then
    let folded := options.fold code
    folded == options.fold literal || (options.siblings (options.fold literal)).contains folded
  else code == literal

/-- Some member of a set holds a character. -/
def setContains (options : Options) (items : List SetItem) (code : Nat) : Bool :=
  if options.ignoreCase && items.any (SetItem.isCased options) then
    items.any (SetItem.containsFolded options (options.fold code))
  else items.any (SetItem.contains options code)

/-- Whether a test accepts a character. -/
def CharTest.accepts (options : Options) (test : CharTest) (c : Char) : Bool :=
  match test with
  | .any => options.dotAll || c != '\n'
  | .one literal => literalAccepts options literal c.toNat
  | .other literal => !literalAccepts options literal c.toNat
  | .set negated items => setContains options items c.toNat != negated

end Patternwright.Regex
