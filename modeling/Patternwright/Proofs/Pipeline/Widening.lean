import Patternwright.Proofs.Pipeline.Law
import Patternwright.Proofs.Regex.Switches
import Patternwright.Proofs.Shape.Address
import Patternwright.Proofs.Shape.Card
import Patternwright.Proofs.Shape.CardPattern

/-!
# What more options let through

The switches for case, lines and the dot go to the matcher and never into the text of a pattern. So
a configuration with one more of them on has the same pattern under more options, and what it
accepts can be compared part by part: no fixed pattern of a shape, no pattern of a brand and no part
that the stages build accepts less under more options, apart from conditions that some words are not
to come. Those depend on case and on the dot, and they take back what these let through; on lines
they do not depend.

## Main definitions

* `Config.Accepts` — a configuration compiles, and its matcher accepts a text
* `Pipeline.Widens` — a pattern matches under some options wherever it does under others

## Main results

* `Pipeline.widens_build` — the pattern of a configuration widens
* `Pipeline.accepts_switchOn` — more texts are accepted with one more switch on
-/

namespace Patternwright

open Regex

/-- The configuration compiles, and its matcher accepts the text. -/
def Config.Accepts (config : Config) (text : String) : Prop :=
  ∃ matcher, Matcher.ofConfig config = .ok matcher ∧ matcher.accepts text = true

instance (config : Config) (text : String) : Decidable (config.Accepts text) :=
  match compiled : Matcher.ofConfig config with
  | .ok matcher =>
    decidable_of_iff (matcher.accepts text = true)
      ⟨fun accepted => ⟨matcher, compiled, accepted⟩, fun ⟨_, same, accepted⟩ =>
        Except.ok.inj (compiled.symm.trans same) ▸ accepted⟩
  | .error _ => isFalse fun ⟨_, same, _⟩ => nomatch compiled.symm.trans same

namespace Pipeline

/-! ### Patterns under two options -/

/-- The text is a pattern that switches on nothing for itself. Under the second options it matches
wherever it does under the first, and no search for it passes over a place. -/
def Widens (options wider : Options) (shown : String) : Prop :=
  ∃ node groupCount, Parsed.read shown.toList = .ok ⟨node, [], groupCount⟩ ∧
    node.WidensTo options node wider ∧ node.openingSet? wider false = none

/-- Where two configurations have the same pattern, what is accepted follows the pattern. -/
theorem accepts_of_widens {config other : Config} {shape? : Option Shape} {shown : String}
    (built : build config = .ok (shape?, shown)) (same : build other = build config)
    (widens : Widens (optionsOf config) (optionsOf other) shown) {text : String}
    (accepts : config.Accepts text) : other.Accepts text := by
  obtain ⟨node, groupCount, read, wider, tries⟩ := widens
  obtain ⟨matcher, compiled, accepted⟩ := accepts
  rw [ofConfig_of_build built, compile_of_read read] at compiled
  -- Whether the tree has a fault does not depend on options.
  cases sound : node.fault? false with
  | some cause => simp [sound] at compiled
  | none =>
    rw [sound] at compiled
    obtain rfl := Except.ok.inj compiled
    refine ⟨_, by rw [ofConfig_of_build (same.trans built), compile_of_read read, sound], ?_⟩
    refine Pattern.accepts_of_widensTo wider (fun c? => ?_) accepted
    rw [Pattern.triesAt, tries]

variable {options wider : Options}

theorem widens_of_isPlain (within : options.IsWithin wider) {shown : String} {node : Node}
    {groupCount : Nat} (read : Parsed.read shown.toList = .ok ⟨node, [], groupCount⟩)
    (plain : node.isPlain = true) : Widens options wider shown :=
  ⟨node, groupCount, read, Node.widensTo_of_isPlain within node plain,
    Node.openingSet?_of_isPlain wider node plain⟩

/-! ### Patterns of shapes -/

/-- The text reads as a plain tree and switches on nothing. -/
def isPlainText (shown : String) : Bool :=
  match Parsed.read shown.toList with
  | .ok parsed => parsed.flags.isEmpty && parsed.node.isPlain
  | .error _ => false

theorem widens_of_isPlainText (within : options.IsWithin wider) {shown : String}
    (plain : isPlainText shown = true) : Widens options wider shown := by
  unfold isPlainText at plain
  split at plain
  · next parsed read =>
    obtain ⟨node, flags, groupCount⟩ := parsed
    obtain ⟨none, plain⟩ := Bool.and_eq_true_iff.mp plain
    obtain rfl := List.isEmpty_iff.mp none
    exact widens_of_isPlain within read plain
  · cases plain

/-- The pattern of a shape that has just one is plain. -/
theorem widens_fixed (within : options.IsWithin wider) {shape : Shape} {shown : String}
    (fixed : shape.fixed? = some shown) : Widens options wider shown := by
  cases shape with
  | ipv6 =>
    -- The forms of an address have been read already.
    obtain rfl := Option.some.inj fixed
    have read := (Atom.ofAlternatives Address.parts (by simp [Address.parts])).alone.reads.between
    rw [← Address.toList_pattern] at read
    exact widens_of_isPlain within read.read_eq (by decide +kernel)
  | date | time | creditCard => cases fixed
  | _ =>
    obtain rfl := Option.some.inj fixed
    exact widens_of_isPlainText within (by decide +kernel)

theorem widens_date (within : options.IsWithin wider) :
    Widens options wider ("^" ++ Format.defaultDate ++ "$") :=
  widens_of_isPlainText within (by decide +kernel)

theorem widens_time (within : options.IsWithin wider) :
    Widens options wider ("^" ++ Format.defaultTime ++ "$") :=
  widens_of_isPlainText within (by decide +kernel)

/-! ### Patterns of cards -/

theorem isPlain_row (brand : CardBrand) (before : Nat) :
    (Node.sequence (brand.row before)).isPlain = true := by
  cases brand <;> rfl

theorem widens_brands (within : options.IsWithin wider) (brands : List CardBrand) :
    Widens options wider (CardBrand.anyOf brands) := by
  by_cases none : brands = []
  · obtain rfl := none
    exact widens_of_isPlain within reads_nil.read_eq rfl
  · exact widens_of_isPlain within (CardBrand.read_anyOf none)
      (Node.isPlain_anyOf (CardBrand.forall_alternativesFrom isPlain_row brands 1))

/-- A filter of texts has the pattern of some brands. -/
theorem exists_filterPattern {entries : List Value}
    (texts : ∀ entry ∈ entries, ∃ name, entry = .text name) :
    ∃ brands, CardBrand.filterPattern (.list entries) = .ok (CardBrand.anyOf brands) := by
  by_cases none : entries = []
  · obtain rfl := none
    exact ⟨CardBrand.all, rfl⟩
  · obtain ⟨brands, selects, -⟩ := CardBrand.mem_selected texts
    exact ⟨brands, CardBrand.filterPattern_list none selects⟩

/-! ### What the stages build -/

/-- The conditions that some words are not to come forbid no more under the second options. -/
def KeepsConditions (config : Config) (options wider : Options) : Prop :=
  (config.list .mustNotContain = [] ∧ config.list .disallowedWords = []) ∨
    options.TestsAlike wider

section Alike

variable (alike : options.TestsAlike wider)

include alike

theorem widensTo_char_of_alike (test : CharTest) :
    (Node.char test).WidensTo options (.char test) wider :=
  .char fun c accepted => CharTest.accepts_congr alike test c ▸ accepted

theorem widensTo_anything_of_alike : Regex.anything.WidensTo options Regex.anything wider :=
  (widensTo_char_of_alike alike .any).rep 0 none

theorem widensTo_literals_of_alike (word : List Char) :
    ∀ node ∈ literals word, node.WidensTo options node wider := by
  intro node member
  obtain ⟨c, -, rfl⟩ := List.mem_map.mp member
  exact widensTo_char_of_alike alike _

theorem widensTo_anyWord_of_alike (words : List (List Char)) :
    (anyWord words).WidensTo options (anyWord words) wider := by
  refine .anyOf _ fun node member => ?_
  obtain ⟨word, -, rfl⟩ := List.mem_map.mp member
  exact .sequence _ (widensTo_literals_of_alike alike word)

end Alike

theorem isPlain_switchItems : ∀ part ∈ classParts,
    (switchItems part.1).all SetItem.isPlain = true := by decide

theorem isPlain_classItems (config : Config) :
    (CharTest.set false (classItems config)).isPlain = true := by
  refine List.all_eq_true.mpr fun item member => ?_
  obtain ⟨part, on, listed⟩ := List.mem_flatMap.mp member
  have known : part ∈ classParts := (List.mem_filter.mp on).1
  exact List.all_eq_true.mp (isPlain_switchItems part known) item listed

/-- Every part that the stages add widens. -/
theorem admits_widensTo {config : Config} (within : options.IsWithin wider)
    (keeps : KeepsConditions config options wider) :
    Admits config fun node => node.WidensTo options node wider where
  dot := widensTo_char_of_isWithin within rfl
  literal _ := widensTo_char_of_isWithin within rfl
  switches := widensTo_char_of_isWithin within (isPlain_classItems config)
  lineStart := widensTo_lineStart_of_isWithin within
  lineEnd := widensTo_lineEnd_of_isWithin within
  sequence := .sequence
  anyOf := .anyOf
  rep least most _ widens := widens.rep least most
  present _ widens := widens.ahead
  -- A negation turns the comparison round, so both options have to read the words alike.
  absent word listed := by
    rcases keeps with ⟨unlisted, -⟩ | alike
    · simp [Config.words, unlisted] at listed
    · refine .notAhead (.sequence _ (List.forall_mem_cons.mpr ?_))
      exact ⟨widensTo_anything_of_alike alike.symm, widensTo_literals_of_alike alike.symm word⟩
  without listed := by
    rcases keeps with ⟨-, unlisted⟩ | alike
    · simp [Config.words, unlisted] at listed
    · refine .notAhead (.sequence _ (List.forall_mem_cons.mpr ?_))
      exact ⟨widensTo_anything_of_alike alike.symm,
        List.forall_mem_singleton.mpr (widensTo_anyWord_of_alike alike.symm _)⟩

/-! ### Configurations -/

end Pipeline

/-- No part of the pattern is written by hand: there is no custom pattern and no format, and
literals and brands are texts. Where the stages build it, bounds are integers or truth values. -/
structure Config.IsDeclared (config : Config) : Prop extends config.IsLiteral where
  custom : config.scalar .custom = .text ""
  dateFormat : config.scalar .dateFormat = .null
  timeFormat : config.scalar .timeFormat = .null
  brands : ∀ entry ∈ config.list .cardBrands, ∃ name, entry = .text name
  bounds : Shape.select? config = none → config.HasBounds

namespace Pipeline

variable {config : Config}

theorem pattern_of_fixed {shape : Shape} {shown : String} (fixed : shape.fixed? = some shown) :
    shape.pattern config = .ok shown := by
  cases shape with
  | date | time | creditCard => cases fixed
  | _ => exact congrArg (fun shown? : Option String => Except.ok (shown?.getD "")) fixed

theorem widens_shape (declared : config.IsDeclared) (within : options.IsWithin wider)
    (shape : Shape) :
    ∃ shown, shape.pattern config = .ok shown ∧ Widens options wider shown := by
  cases fixed : shape.fixed? with
  | some shown => exact ⟨shown, pattern_of_fixed fixed, widens_fixed within fixed⟩
  | none =>
    cases shape with
    | date =>
      refine ⟨_, ?_, widens_date within⟩
      rw [Shape.pattern, declared.dateFormat]
      rfl
    | time =>
      refine ⟨_, ?_, widens_time within⟩
      rw [Shape.pattern, declared.timeFormat]
      rfl
    | creditCard =>
      obtain ⟨brands, pattern⟩ := exists_filterPattern declared.brands
      exact ⟨_, pattern, widens_brands within brands⟩
    | _ => cases fixed

/-- The pattern of a configuration that compiles widens. -/
theorem widens_build (declared : config.IsDeclared) (within : options.IsWithin wider)
    (keeps : KeepsConditions config options wider) {matcher : Matcher}
    (compiled : Matcher.ofConfig config = .ok matcher) :
    ∃ shape? shown, build config = .ok (shape?, shown) ∧ Widens options wider shown := by
  cases shaped : Shape.select? config with
  | some shape =>
    obtain ⟨shown, pattern, widens⟩ := widens_shape declared within shape
    exact ⟨some shape, shown, build_of_shape shaped pattern, widens⟩
  | none =>
    have general : config.IsGeneral :=
      { declared.toIsLiteral with unshaped := shaped, custom := declared.custom }
    obtain ⟨shown, row, built, drew, read, -⟩ :=
      exists_outline general (declared.bounds shaped) compiled
    have whole : outlined config = .ok (.anchor .lineStart :: (row ++ [.anchor .lineEnd])) := by
      rw [outlined, drew]
      rfl
    have all := (admits_widensTo within keeps).all_outlined _ whole
    exact ⟨none, shown, built, _, _, read, .sequence _ all, by cases row <;> rfl⟩

/-! ### Switches -/

/-- The field is a switch for the matcher. -/
def isMatchSwitch : Scalar → Bool
  | .caseInsensitive | .multiLine | .dotAll => true
  | _ => false

/-- No pattern depends on the switches for the matcher. -/
theorem build_switchOn (config : Config) {field : Scalar} (switch : isMatchSwitch field = true) :
    build (config.setScalar field (.bool true)) = build config := by
  cases field with
  | caseInsensitive | multiLine | dotAll => rfl
  | _ => cases switch

theorem isWithin_switchOn (config : Config) {field : Scalar} (switch : isMatchSwitch field = true) :
    (optionsOf config).IsWithin (optionsOf (config.setScalar field (.bool true))) := by
  cases field with
  | caseInsensitive => exact ⟨rfl, rfl, fun _ => rfl, id, id⟩
  | multiLine => exact ⟨rfl, rfl, id, fun _ => rfl, id⟩
  | dotAll => exact ⟨rfl, rfl, id, id, fun _ => rfl⟩
  | _ => cases switch

theorem accepts_setScalar (declared : config.IsDeclared) {field : Scalar}
    (switch : isMatchSwitch field = true)
    (keeps : KeepsConditions config (optionsOf config)
      (optionsOf (config.setScalar field (.bool true)))) {text : String}
    (accepts : config.Accepts text) : (config.setScalar field (.bool true)).Accepts text := by
  obtain ⟨matcher, compiled, accepted⟩ := accepts
  have same := build_switchOn config switch
  obtain ⟨shape?, shown, built, widens⟩ :=
    widens_build declared (isWithin_switchOn config switch) keeps compiled
  exact accepts_of_widens built same widens ⟨matcher, compiled, accepted⟩

/-- With one more switch on, no text is lost: lines make no difference to conditions, and without
conditions that some words are not to come, neither case nor the dot takes anything back. -/
theorem accepts_switchOn (declared : config.IsDeclared) {text : String}
    (accepts : config.Accepts text) :
    (config.setScalar .multiLine (.bool true)).Accepts text ∧
      (config.list .mustNotContain = [] → config.list .disallowedWords = [] →
        (config.setScalar .caseInsensitive (.bool true)).Accepts text ∧
          (config.setScalar .dotAll (.bool true)).Accepts text) := by
  constructor
  · exact accepts_setScalar declared rfl (.inr ⟨rfl, rfl, rfl⟩) accepts
  · intro absent without
    have keeps {wider : Options} : KeepsConditions config (optionsOf config) wider :=
      .inl ⟨absent, without⟩
    constructor
    · exact accepts_setScalar declared rfl keeps accepts
    · exact accepts_setScalar declared rfl keeps accepts

/-- Letters with a word among them, twice or more often. -/
def spelled : Config :=
  ((Config.default.setScalar .letters (.bool true)).setScalar .minRepetitions (.int 2)).setList
    .mustContain [.text "K"]

theorem isDeclared_spelled : spelled.IsDeclared where
  opening := .inl rfl
  closing := .inl rfl
  words field _ word member := by
    cases field with
    | mustContain => exact ⟨"K", List.mem_singleton.mp member⟩
    | _ => exact (List.not_mem_nil member).elim
  custom := rfl
  dateFormat := rfl
  timeFormat := rfl
  brands _ member := (List.not_mem_nil member).elim
  bounds _ :=
    { minLength := .inl rfl
      maxLength := .inl rfl
      exactRepetitions := .inl rfl
      minRepetitions := fun _ => .inr (.inl ⟨2, rfl⟩)
      maxRepetitions := fun _ => .inl rfl }

theorem accepts_switchOn_spelled : spelled.IsDeclared ∧ spelled.Accepts "OKK" ∧
    spelled.list .mustNotContain = [] ∧ spelled.list .disallowedWords = [] ∧
    (spelled.setScalar .multiLine (.bool true)).Accepts "OKK" ∧
    (spelled.setScalar .caseInsensitive (.bool true)).Accepts "OKK" ∧
    (spelled.setScalar .dotAll (.bool true)).Accepts "OKK" := by
  have accepts : spelled.Accepts "OKK" := by decide +kernel
  obtain ⟨lines, others⟩ := accepts_switchOn isDeclared_spelled accepts
  exact ⟨isDeclared_spelled, accepts, rfl, rfl, lines, others rfl rfl⟩

end Pipeline

end Patternwright
