import Patternwright.Proofs.Regex.Growth
import Patternwright.Proofs.Unicode.LetterCase

/-!
# Trees that widen as options are switched on

With more options switched on, most tests of a character accept no less: the dot accepts line breaks
too, and a literal what folds like it. A set folds the characters it is asked about, so it keeps its
members only if they are found again from their folded forms. That holds for characters and ranges
of the basic plane, and for digits and white space, which fold to themselves. A negated set has to
keep out no more than it did, so none of its members may be cased.

A *plain* tree is made of such tests and of anchors of lines, with nothing that looks back, changes
options or must not follow.

## Main definitions

* `Options.IsWithin` — some options are on wherever others are, for all scripts
* `Options.TestsAlike` — options that are the same to every test of a character
* `CharTest.isPlain`, `Node.isPlain` — tests and trees that widen with the options

## Main results

* `CharTest.accepts_of_isWithin` — a plain test accepts no less under more options
* `Node.widensTo_of_isPlain` — a plain tree widens to itself
-/

namespace Patternwright.Regex

/-- The second options are on wherever the first are, and both know all scripts. -/
structure Options.IsWithin (options wider : Options) : Prop where
  scripts : options.ascii = false
  scriptsWider : wider.ascii = false
  ignoreCase : options.ignoreCase = true → wider.ignoreCase = true
  multiLine : options.multiLine = true → wider.multiLine = true
  dotAll : options.dotAll = true → wider.dotAll = true

/-- The options agree about case, line breaks and scripts, which tests of characters depend on. -/
structure Options.TestsAlike (options other : Options) : Prop where
  ascii : options.ascii = other.ascii
  ignoreCase : options.ignoreCase = other.ignoreCase
  dotAll : options.dotAll = other.dotAll

theorem Options.TestsAlike.symm {options other : Options} (alike : options.TestsAlike other) :
    other.TestsAlike options := ⟨alike.ascii.symm, alike.ignoreCase.symm, alike.dotAll.symm⟩

/-! ### Members of sets -/

variable {options wider : Options}

/-- Folding a character and going back finds it again. -/
theorem mem_unfold_fold (scripts : options.ascii = false) (code : Nat) :
    code ∈ options.unfold (options.fold code) := by
  simp only [Options.unfold, Options.fold, scripts, Bool.false_eq_true, ↓reduceIte]
  by_cases moves : Unicode.lowerCase code = code
  · simp [moves]
  · have found := Unicode.mem_lowerCaseOf moves
    split
    · exact List.mem_cons_of_mem _ found
    · exact found

/-- The member finds its characters again from their folded forms. -/
def SetItem.isPlain : SetItem → Bool
  | .one code => code ≤ basicPlaneEnd
  | .range _ last => last ≤ basicPlaneEnd
  | .named false .digit | .named false .space => true
  | .named _ _ => false

theorem SetItem.containsFolded_of_contains (scripts : options.ascii = false) {item : SetItem}
    (plain : item.isPlain = true) {code : Nat} (contains : item.contains options code = true) :
    item.containsFolded options (options.fold code) = true := by
  have folded : options.fold code = Unicode.lowerCase code := by simp [Options.fold, scripts]
  match item with
  | .one member =>
    obtain rfl : code = member := by simpa [SetItem.contains] using contains
    have inside : ¬ basicPlaneEnd < code := by simpa [SetItem.isPlain] using plain
    simp [SetItem.containsFolded, inside]
  | .range first last =>
    -- The folded form may lie outside, but the character itself is among those that fold to it.
    have inside : (first ≤ code && code ≤ min last basicPlaneEnd) = true := by
      simp only [SetItem.isPlain, SetItem.contains, Bool.and_eq_true,
        decide_eq_true_eq] at plain contains ⊢
      omega
    have found : (options.unfold (options.fold code)).any
        (fun code => first ≤ code && code ≤ min last basicPlaneEnd) = true :=
      List.any_eq_true.mpr ⟨code, mem_unfold_fold scripts code, inside⟩
    simp only [SetItem.containsFolded, found, Bool.true_or]
  | .named false .digit =>
    have decimal : Unicode.isDecimal code = true := by
      simpa [SetItem.contains, Category.contains, scripts] using contains
    rw [folded, Unicode.lowerCase_of_isDecimal decimal]
    exact contains
  | .named false .space =>
    have blank : Unicode.isBlank code = true := by
      simpa [SetItem.contains, Category.contains, scripts] using contains
    rw [folded, Unicode.lowerCase_of_isBlank blank]
    exact contains

/-! ### Tests of characters -/

/-- The test accepts no less under more options. -/
def CharTest.isPlain : CharTest → Bool
  | .any | .one _ => true
  | .other _ => false
  | .set false items => items.all SetItem.isPlain
  | .set true items => !items.any (SetItem.isCased {})

section Congr

variable (ascii : options.ascii = wider.ascii)

include ascii

theorem SetItem.contains_congr (code : Nat) :
    SetItem.contains options code = SetItem.contains wider code := by
  obtain ⟨_, _, _, _⟩ := options
  obtain rfl := ascii
  rfl

theorem SetItem.isCased_congr : SetItem.isCased options = SetItem.isCased wider := by
  obtain ⟨_, _, _, _⟩ := options
  obtain rfl := ascii
  rfl

variable (ignoreCase : options.ignoreCase = wider.ignoreCase)

include ignoreCase

theorem literalAccepts_congr (literal code : Nat) :
    literalAccepts options literal code = literalAccepts wider literal code := by
  obtain ⟨_, _, _, _⟩ := options
  obtain rfl := ignoreCase
  obtain rfl := ascii
  rfl

theorem setContains_congr (items : List SetItem) (code : Nat) :
    setContains options items code = setContains wider items code := by
  obtain ⟨_, _, _, _⟩ := options
  obtain rfl := ignoreCase
  obtain rfl := ascii
  rfl

end Congr

theorem CharTest.accepts_congr (alike : options.TestsAlike wider) (test : CharTest) (c : Char) :
    test.accepts options c = test.accepts wider c := by
  cases test with
  | any => simp only [CharTest.accepts, alike.dotAll]
  | one literal | other literal =>
    simp only [CharTest.accepts, literalAccepts_congr alike.ascii alike.ignoreCase]
  | set negated items =>
    simp only [CharTest.accepts, setContains_congr alike.ascii alike.ignoreCase]

/-- Where case counts or nothing is cased, a set holds what its members hold. -/
theorem setContains_of_not_folding {items : List SetItem}
    (still : (options.ignoreCase && items.any (SetItem.isCased options)) = false) (code : Nat) :
    setContains options items code = items.any (SetItem.contains options code) := by
  rw [setContains, still]
  rfl

section Within

variable (within : options.IsWithin wider)

include within

theorem Options.IsWithin.ascii : options.ascii = wider.ascii :=
  within.scripts.trans within.scriptsWider.symm

/-- Either case counts as before, or it counted and counts no longer. -/
theorem Options.IsWithin.ignoreCase_cases :
    options.ignoreCase = wider.ignoreCase ∨ options.ignoreCase = false := by
  cases on : options.ignoreCase with
  | true => exact .inl (within.ignoreCase on).symm
  | false => exact .inr rfl

theorem literalAccepts_of_isWithin {literal code : Nat}
    (accepted : literalAccepts options literal code = true) :
    literalAccepts wider literal code = true := by
  rcases within.ignoreCase_cases with same | off
  · rw [← literalAccepts_congr within.ascii same]
    exact accepted
  · obtain rfl : code = literal := by simpa [literalAccepts, off] using accepted
    simp [literalAccepts]

theorem setContains_of_isWithin {items : List SetItem} (plain : items.all SetItem.isPlain = true)
    {code : Nat} (contains : setContains options items code = true) :
    setContains wider items code = true := by
  rcases within.ignoreCase_cases with same | off
  · rw [← setContains_congr within.ascii same]
    exact contains
  · rw [setContains_of_not_folding (by simp [off]), SetItem.contains_congr within.ascii]
      at contains
    rw [setContains]
    split
    · obtain ⟨item, member, held⟩ := List.any_eq_true.mp contains
      have folded := SetItem.containsFolded_of_contains within.scriptsWider
        (List.all_eq_true.mp plain item member) held
      exact List.any_eq_true.mpr ⟨item, member, folded⟩
    · exact contains

/-- A set without a cased member holds what it did. -/
theorem setContains_eq_of_isWithin {items : List SetItem}
    (uncased : items.any (SetItem.isCased {}) = false) (code : Nat) :
    setContains options items code = setContains wider items code := by
  have still {options : Options} (scripts : options.ascii = false) :
      (options.ignoreCase && items.any (SetItem.isCased options)) = false := by
    have same : SetItem.isCased options = SetItem.isCased {} := SetItem.isCased_congr scripts
    rw [same, uncased, Bool.and_false]
  rw [setContains_of_not_folding (still within.scripts),
    setContains_of_not_folding (still within.scriptsWider), SetItem.contains_congr within.ascii]

theorem CharTest.accepts_of_isWithin {test : CharTest} (plain : test.isPlain = true) {c : Char}
    (accepted : test.accepts options c = true) : test.accepts wider c = true := by
  match test with
  | .any =>
    rw [accepts, Bool.or_eq_true_iff] at accepted ⊢
    exact accepted.imp_left within.dotAll
  | .one literal => exact literalAccepts_of_isWithin within accepted
  | .set false items =>
    rw [accepts, Bool.bne_false] at accepted ⊢
    exact setContains_of_isWithin within plain accepted
  | .set true items =>
    have uncased : items.any (SetItem.isCased {}) = false := by simpa [isPlain] using plain
    rw [accepts, ← setContains_eq_of_isWithin within uncased]
    exact accepted

/-! ### Trees -/

theorem widensTo_char_of_isWithin {test : CharTest} (plain : test.isPlain = true) :
    (Node.char test).WidensTo options (.char test) wider :=
  .char fun _ => CharTest.accepts_of_isWithin within plain

/-- The start and the end of the text are those of a line in any case. -/
theorem widensTo_lineStart_of_isWithin :
    (Node.anchor .lineStart).WidensTo options (.anchor .lineStart) wider := by
  refine .anchor fun s held => ?_
  simp only [Anchor.holds, Bool.or_eq_true, Bool.and_eq_true] at held ⊢
  exact held.imp_right (And.imp_left within.multiLine)

theorem widensTo_lineEnd_of_isWithin :
    (Node.anchor .lineEnd).WidensTo options (.anchor .lineEnd) wider := by
  refine .anchor fun s held => ?_
  simp only [Anchor.holds, Bool.or_eq_true, Bool.and_eq_true] at held ⊢
  exact held.imp_right (And.imp_left within.multiLine)

end Within

namespace Node

/-- The tree is made of plain tests and of anchors of lines, in rows, alternatives, groups and
greedy repetitions, and of conditions on what follows. -/
def isPlain : Node → Bool
  | empty | anchor .lineStart | anchor .lineEnd => true
  | char test => test.isPlain
  | seq first second | alt first second => first.isPlain && second.isPlain
  | group _ body | rep .greedy _ _ body | ahead false body => body.isPlain
  | _ => false

/-- A plain tree matches under more options wherever it did. -/
theorem widensTo_of_isPlain (within : options.IsWithin wider) (node : Node)
    (plain : node.isPlain = true) : node.WidensTo options node wider := by
  induction node with
  | empty => exact .empty
  | char test => exact widensTo_char_of_isWithin within plain
  | seq first second ihFirst ihSecond =>
    obtain ⟨here, later⟩ := Bool.and_eq_true_iff.mp plain
    exact (ihFirst here).seq (ihSecond later)
  | alt first second ihFirst ihSecond =>
    obtain ⟨here, later⟩ := Bool.and_eq_true_iff.mp plain
    exact (ihFirst here).alt (ihSecond later)
  | group index body ih => exact (ih plain).group index index
  | rep greed least most body ih =>
    cases greed with
    | greedy => exact (ih plain).rep least most
    | _ => cases plain
  | ahead negated body ih =>
    cases negated with
    | false => exact (ih plain).ahead
    | true => cases plain
  | anchor place =>
    cases place with
    | lineStart => exact widensTo_lineStart_of_isWithin within
    | lineEnd => exact widensTo_lineEnd_of_isWithin within
    | _ => cases plain
  | _ => cases plain

theorem isPlain_sequence {row : List Node} (plain : ∀ node ∈ row, node.isPlain = true) :
    (sequence row).isPlain = true := by
  induction row with
  | nil => rfl
  | cons node row ih =>
    obtain ⟨here, later⟩ := List.forall_mem_cons.mp plain
    cases row with
    | nil => exact here
    | cons next row => exact Bool.and_eq_true_iff.mpr ⟨here, ih later⟩

theorem isPlain_anyOf {alternatives : List Node}
    (plain : ∀ node ∈ alternatives, node.isPlain = true) :
    (anyOf alternatives).isPlain = true := by
  cases alternatives with
  | nil => rfl
  | cons first alternatives =>
    rw [anyOf]
    induction alternatives generalizing first with
    | nil => exact plain first (List.mem_singleton_self first)
    | cons next alternatives ih =>
      obtain ⟨here, later⟩ := List.forall_mem_cons.mp plain
      exact Bool.and_eq_true_iff.mpr ⟨here, ih next later⟩

/-- The search passes over a place only for a set in a group that changes options. -/
theorem openingSet?_of_isPlain (options : Options) (node : Node) (plain : node.isPlain = true) :
    node.openingSet? options false = none := by
  induction node with
  | char test => cases test <;> rfl
  | seq first second ih _ => exact ih (Bool.and_eq_true_iff.mp plain).1
  | group index body ih => exact ih plain
  | scope on off body => cases plain
  | _ => rfl

end Node

end Patternwright.Regex
