import Patternwright.CommandLine.Overlay
import Patternwright.Proofs.CommandLine.LoadedDocument
import Patternwright.Proofs.CommandLine.Writing
import Patternwright.Shape.Pattern

/-!
# Options over a document

What the options of a command line say is laid over the configuration of its document, and nothing
else changes. Each option is about the field that it is named for. A switch can only turn its field
on, a value takes the place of the one before, even if it is empty or zero, and words that are given
one by one make one list.

So a document and the options of a command line are of equal rank where shapes are concerned: the
first shape in the order of all shapes is taken, wherever it was asked for.

## Main definitions

* `valueFor?` — the value that a setting gives a field
* `IsBase` — the configuration of a document or the default one
* `IsOverlaid` — a configuration with settings laid over another one

## Main results

* `exists_isOverlaid` — settings of the right kind are laid over a configuration
* `IsOverlaid.select?_eq` — the shape that a document and settings ask for
* `configOf_of_parse` — the options of a command line are laid over a configuration
-/

namespace Patternwright.CommandLine

/-! ### The last value -/

section Last

variable {α β : Type} {pick pick' : Setting → Option α} {settings : List Setting} {a : α}

theorem exists_of_last? (last : last? pick settings = some a) :
    ∃ setting ∈ settings, pick setting = some a :=
  List.mem_filterMap.mp (List.mem_of_getLast? last)

theorem last?_congr (same : ∀ setting ∈ settings, pick setting = pick' setting) :
    last? pick settings = last? pick' settings := by
  rw [last?, last?, List.filterMap_congr same]

theorem last?_map (f : α → β) (pick : Setting → Option α) (settings : List Setting) :
    last? (fun setting => (pick setting).map f) settings = (last? pick settings).map f := by
  rw [last?, last?, ← List.getLast?_map, List.map_filterMap]

theorem last?_eq_none (none' : ∀ setting ∈ settings, pick setting = none) :
    last? pick settings = none := by
  rw [last?, List.filterMap_eq_nil_iff.mpr none']
  rfl

/-- A value that is the only one is the last one. -/
theorem last?_eq_some (given : ∃ setting ∈ settings, pick setting = some a)
    (only : ∀ setting ∈ settings, ∀ b, pick setting = some b → b = a) :
    last? pick settings = some a := by
  obtain ⟨setting, member, picked⟩ := given
  have inside : a ∈ settings.filterMap pick := List.mem_filterMap.mpr ⟨setting, member, picked⟩
  rw [last?, List.getLast?_eq_some_getLast (List.ne_nil_of_mem inside)]
  obtain ⟨other, among, found⟩ := List.mem_filterMap.mp
    (List.getLast_mem (List.ne_nil_of_mem inside))
  rw [only other among _ found]

end Last

/-! ### Changes -/

/-- The value that a setting gives a field, given all settings. -/
def valueFor? (settings : List Setting) (field : Field) (setting : Setting) : Option Value :=
  (changeOf settings setting).bind fun change => if change.1 = field then some change.2 else none

/-- The last change of a field is that of the last setting about it. -/
theorem lastChange?_changesOf (settings : List Setting) (field : Field) :
    lastChange? field (changesOf settings) = last? (valueFor? settings field) settings := by
  -- The program looks for the change from the end.
  have last (changes : List Change) : lastChange? field changes = (changes.filterMap fun change =>
      if change.1 = field then some change.2 else none).getLast? := by
    rw [List.getLast?_filterMap, lastChange?]
    induction changes.reverse with
    | nil => rfl
    | cons change changes ih =>
      rw [List.find?_cons, List.findSome?_cons]
      by_cases about : change.1 = field
      · simp [about]
      · simpa [about] using ih
  rw [last, changesOf, List.filterMap_filterMap]
  rfl

section Values

variable {settings : List Setting} {setting : Setting} {field : Scalar} {words : ListField}

/-- A setting changes nothing but the field that it is about. -/
theorem valueFor?_eq_none {field : Field} (other : setting.field? ≠ some field) :
    valueFor? settings field setting = none := by
  cases setting <;> simp_all [valueFor?, changeOf, Setting.field?]

theorem field?_eq_of_valueFor? {field : Field} {v : Value}
    (given : valueFor? settings field setting = some v) : setting.field? = some field := by
  by_contra other
  rw [valueFor?_eq_none other] at given
  cases given

/-- If all settings about a field give it the same value, this is its last value. -/
theorem last?_valueFor? {field : Field} {v : Value} (member : setting ∈ settings)
    (about : setting.field? = some field)
    (same : ∀ other ∈ settings, other.field? = some field → valueFor? settings field other = some v) :
    last? (valueFor? settings field) settings = some v := by
  refine last?_eq_some ⟨setting, member, same setting member about⟩ fun other among w given => ?_
  exact Option.some.inj (given.symm.trans (same other among (field?_eq_of_valueFor? given)))

/-- The last value of a field is the last one of the kind that settings give it. -/
theorem last?_valueFor?_map {α : Type} {field : Field} {pick : Setting → Option α} {f : α → Value}
    {a : α} (same : ∀ other ∈ settings, valueFor? settings field other = (pick other).map f)
    (last : last? pick settings = some a) :
    last? (valueFor? settings field) settings = some (f a) := by
  rw [last?_congr same, last?_map, last]
  rfl

theorem eq_switch (offered : setting.IsOffered) (kind : field.kind = .switch)
    (about : setting.field? = some (.scalar field)) : setting = .switch field := by
  cases setting <;> simp_all [Setting.field?, Setting.IsOffered]
  subst about
  cases kind

theorem eq_shape {shape : Shape} (offered : setting.IsOffered)
    (about : setting.field? = some (.scalar (.shape shape))) : setting = .shape shape := by
  cases setting <;> simp_all [Setting.field?, Setting.IsOffered, Scalar.kind]

theorem eq_textField (offered : setting.IsOffered) (kind : field.kind = .text)
    (about : setting.field? = some (.scalar field)) : ∃ text, setting = .textField field text := by
  cases setting <;> simp_all [Setting.field?, Setting.IsOffered]
  subst about
  cases kind

theorem eq_numberField (offered : setting.IsOffered) (kind : field.kind = .number)
    (about : setting.field? = some (.scalar field)) : ∃ n, setting = .numberField field n := by
  cases setting <;> simp_all [Setting.field?, Setting.IsOffered]
  subst about
  cases kind

theorem eq_word (offered : setting.IsOffered) (collected : words.isCollected = true)
    (about : setting.field? = some (.list words)) : ∃ text, setting = .word words text := by
  cases setting <;> simp_all [Setting.field?, Setting.IsOffered]

theorem eq_words (offered : setting.IsOffered) (whole : words.isCollected = false)
    (about : setting.field? = some (.list words)) : ∃ texts, setting = .words words texts := by
  cases setting <;> simp_all [Setting.field?, Setting.IsOffered]

/-- The text that a setting gives a field. -/
def textOf (field : Scalar) : Setting → Option String
  | .textField other text => if other = field then some text else none
  | _ => none

/-- The number that a setting gives a field. -/
def numberOf (field : Scalar) : Setting → Option Int
  | .numberField other n => if other = field then some n else none
  | _ => none

/-- The words that a setting gives a field, all at once. -/
def wordsOf (field : ListField) : Setting → Option (List String)
  | .words other texts => if other = field then some texts else none
  | _ => none

theorem textOf_eq_some_iff {text : String} :
    textOf field setting = some text ↔ setting = .textField field text := by
  cases setting <;> simp [textOf]

theorem numberOf_eq_some_iff {n : Int} :
    numberOf field setting = some n ↔ setting = .numberField field n := by
  cases setting <;> simp [numberOf]

theorem wordsOf_eq_some_iff {texts : List String} :
    wordsOf words setting = some texts ↔ setting = .words words texts := by
  cases setting <;> simp [wordsOf]

theorem valueFor?_text (offered : setting.IsOffered) (kind : field.kind = .text) :
    valueFor? settings (.scalar field) setting = (textOf field setting).map .text := by
  by_cases about : setting.field? = some (.scalar field)
  · obtain ⟨text, rfl⟩ := eq_textField offered kind about
    simp [valueFor?, changeOf, textOf]
  · rw [valueFor?_eq_none about]
    cases setting <;> simp_all [textOf, Setting.field?]

theorem valueFor?_number (offered : setting.IsOffered) (kind : field.kind = .number) :
    valueFor? settings (.scalar field) setting = (numberOf field setting).map .int := by
  by_cases about : setting.field? = some (.scalar field)
  · obtain ⟨n, rfl⟩ := eq_numberField offered kind about
    simp [valueFor?, changeOf, numberOf]
  · rw [valueFor?_eq_none about]
    cases setting <;> simp_all [numberOf, Setting.field?]

theorem valueFor?_words (offered : setting.IsOffered) (whole : words.isCollected = false) :
    valueFor? settings (.list words) setting = (wordsOf words setting).map textList := by
  by_cases about : setting.field? = some (.list words)
  · obtain ⟨texts, rfl⟩ := eq_words offered whole about
    simp [valueFor?, changeOf, wordsOf]
  · rw [valueFor?_eq_none about]
    cases setting <;> simp_all [wordsOf, Setting.field?]

end Values

/-! ### The configuration -/

/-- The configuration of the document that settings name, or the default one if they name none. -/
def IsBase (world : World) (settings : List Setting) (config : Config) : Prop :=
  match documentOf? settings with
  | some path => world.document path = .ok config
  | none => config = Config.default

/-- A configuration is another one with settings laid over it. -/
structure IsOverlaid (settings : List Setting) (config other : Config) : Prop where
  switch : ∀ field, .switch field ∈ settings → other.scalar field = .bool true
  shape : ∀ shape, .shape shape ∈ settings → other.scalar (.shape shape) = .bool true
  text : ∀ field text, last? (textOf field) settings = some text → other.scalar field = .text text
  number : ∀ field n, last? (numberOf field) settings = some n → other.scalar field = .int n
  word : ∀ field text, .word field text ∈ settings →
    other.list field = (addedWords field settings).map .text
  words : ∀ field texts, last? (wordsOf field) settings = some texts →
    other.list field = texts.map .text
  kept : ∀ field, (∀ setting ∈ settings, setting.field? ≠ some field) →
    other.get field = config.get field

section Configuration

variable {world : World} {settings : List Setting} {config other : Config}

theorem configOf_eq (base : IsBase world settings config) :
    configOf world settings = config.overlay (changesOf settings) := by
  rw [IsBase] at base
  rw [configOf]
  cases named : documentOf? settings with
  | some path =>
    rw [named] at base
    dsimp only at base ⊢
    rw [base, ok_bind]
  | none =>
    rw [named] at base
    dsimp only at base ⊢
    rw [base]
    rfl

/-- The values that settings give list fields are lists. -/
theorem exists_valueOf_eq (settings : List Setting) (config : Config) (field : ListField) :
    ∃ items, config.valueOf (changesOf settings) field = .list items := by
  rw [Config.valueOf, lastChange?_changesOf]
  cases last : last? (valueFor? settings (.list field)) settings with
  | none => exact ⟨config.list field, rfl⟩
  | some v =>
    obtain ⟨setting, _, given⟩ := exists_of_last? last
    cases setting with
    | word | words =>
      obtain ⟨_, rfl⟩ : _ ∧ textList _ = v := by simpa [valueFor?, changeOf] using given
      exact ⟨_, rfl⟩
    | _ => simp [valueFor?, changeOf] at given

/-- Settings give the fields that they are about their values, and all others keep theirs. -/
theorem exists_configOf_eq (base : IsBase world settings config) :
    ∃ other, configOf world settings = .ok other ∧
      ∀ field, other.get field =
        (lastChange? field (changesOf settings)).getD (config.get field) := by
  choose items same using exists_valueOf_eq settings config
  -- A list field could refuse its value, but it is only given lists.
  have listed : ∀ field ∈ ListField.all,
      field.items ((config.overlayScalars (changesOf settings)).valueOf (changesOf settings) field) =
        .ok (items field) := by
    intro field _
    change field.items (config.valueOf (changesOf settings) field) = _
    rw [same field]
    rfl
  refine ⟨⟨(config.overlayScalars (changesOf settings)).scalar, items⟩, ?_, fun field => ?_⟩
  · rw [configOf_eq base, Config.overlay, Config.overlayLists_ok _ listed]
    simp [ListField.mem_all]
  · cases field with
    | scalar field => rfl
    | list field => exact (same field).symm

/-- A configuration that gets its values from settings of the right kind. -/
theorem isOverlaid_of_get (offered : ∀ setting ∈ settings, setting.IsOffered)
    (get : ∀ field, other.get field =
      (last? (valueFor? settings field) settings).getD (config.get field)) :
    IsOverlaid settings config other := by
  have scalar {field : Scalar} {v : Value}
      (last : last? (valueFor? settings (.scalar field)) settings = some v) :
      other.scalar field = v := by
    have value := get (.scalar field)
    rwa [last] at value
  have list {field : ListField} {texts : List String}
      (last : last? (valueFor? settings (.list field)) settings = some (textList texts)) :
      other.list field = texts.map .text := by
    have value := get (.list field)
    rw [last] at value
    exact Value.list.inj value
  -- Switches, shapes and words leave no choice, so their last value is that of any of them. Texts,
  -- numbers and whole lists do.
  constructor
  case switch =>
    intro field member
    refine scalar (last?_valueFor? member rfl fun other among about => ?_)
    rw [eq_switch (offered other among) (offered _ member) about]
    simp [valueFor?, changeOf]
  case shape =>
    intro shape member
    refine scalar (last?_valueFor? member rfl fun other among about => ?_)
    rw [eq_shape (offered other among) about]
    simp [valueFor?, changeOf]
  case word =>
    intro field text member
    refine list (last?_valueFor? member rfl fun other among about => ?_)
    obtain ⟨text, rfl⟩ := eq_word (offered other among) (offered _ member) about
    simp [valueFor?, changeOf]
  case text =>
    intro field text last
    obtain ⟨setting, member, picked⟩ := exists_of_last? last
    obtain rfl := textOf_eq_some_iff.mp picked
    exact scalar (last?_valueFor?_map (fun other among =>
      valueFor?_text (offered other among) (offered _ member)) last)
  case number =>
    intro field n last
    obtain ⟨setting, member, picked⟩ := exists_of_last? last
    obtain rfl := numberOf_eq_some_iff.mp picked
    exact scalar (last?_valueFor?_map (fun other among =>
      valueFor?_number (offered other among) (offered _ member)) last)
  case words =>
    intro field texts last
    obtain ⟨setting, member, picked⟩ := exists_of_last? last
    obtain rfl := wordsOf_eq_some_iff.mp picked
    exact list (last?_valueFor?_map (fun other among =>
      valueFor?_words (offered other among) (offered _ member)) last)
  case kept =>
    intro field other
    rw [get, last?_eq_none fun setting member => valueFor?_eq_none (other setting member)]
    rfl

/-- Settings of the right kind are laid over a configuration. -/
theorem exists_isOverlaid (offered : ∀ setting ∈ settings, setting.IsOffered)
    (base : IsBase world settings config) :
    ∃ other, configOf world settings = .ok other ∧ IsOverlaid settings config other := by
  obtain ⟨other, configured, get⟩ := exists_configOf_eq base
  simp only [lastChange?_changesOf] at get
  exact ⟨other, configured, isOverlaid_of_get offered get⟩

/-- Of a document and settings, the first shape that either of them asks for is taken. -/
theorem IsOverlaid.select?_eq (overlaid : IsOverlaid settings config other)
    (offered : ∀ setting ∈ settings, setting.IsOffered) :
    Shape.select? other =
      Shape.all.find? fun shape => config.isOn (.shape shape) ∨ .shape shape ∈ settings := by
  have asked (shape : Shape) : other.isOn (.shape shape) =
      decide (config.isOn (.shape shape) ∨ .shape shape ∈ settings) := by
    by_cases member : .shape shape ∈ settings
    · simp [Config.isOn, overlaid.shape shape member, Value.isTruthy, member]
    · have kept : other.get (.scalar (.shape shape)) = config.get (.scalar (.shape shape)) :=
        overlaid.kept _ fun setting among about =>
          member (eq_shape (offered setting among) about ▸ among)
      have same : other.scalar (.shape shape) = config.scalar (.shape shape) := kept
      simp [Config.isOn, same, member]
  rw [Shape.select?]
  exact congrArg Shape.all.find? (funext asked)

end Configuration

/-! ### Options of a command line -/

/-- The options of a command line are laid over the configuration of its document: each sets the
field that it is named for, and the first shape that either of them asks for is taken. -/
theorem configOf_of_parse {world : World} {line : List String} {request : Request} {config : Config}
    (parsed : parse line = .ok request) (base : IsBase world request.settings config) :
    (∀ setting ∈ request.settings, setting.IsOffered ∧
      ∃ spec ∈ request.command.options, spec.takes.Makes setting ∧
        ∀ field : Field, spec.names = [field.option] ↔
          setting.field?.map Field.option = some field.option) ∧
    ∃ other, configOf world request.settings = .ok other ∧
      IsOverlaid request.settings config other ∧
      Shape.select? other = Shape.all.find? fun shape =>
        config.isOn (.shape shape) ∨ .shape shape ∈ request.settings := by
  have offered := isOffered_of_parse parsed
  refine ⟨fun setting member => ?_, ?_⟩
  · obtain ⟨spec, among, makes⟩ := makes_of_parse parsed setting member
    obtain ⟨kind, about⟩ := fits_options _ spec among setting makes
    exact ⟨kind, spec, among, makes, about⟩
  · obtain ⟨other, configured, overlaid⟩ := exists_isOverlaid offered base
    exact ⟨other, configured, overlaid, overlaid.select?_eq offered⟩

/-- A document that asks for a shape stands on standard input. -/
def shapedWorld : World := ⟨[], "\x7b\"isUrl\":true\x7d"⟩

def shapedConfig : Config := Config.default.overlayScalars [(.scalar (.shape .url), .bool true)]

/-- Options that ask for another shape, an empty text and a length of zero. -/
def shapedSettings : List Setting :=
  [.document "-", .shape .email, .textField .opening "", .numberField .minLength 0]

theorem document_shapedWorld : shapedWorld.document "-" = .ok shapedConfig := by
  have plain : Json.SpellsChars "isUrl".toList "isUrl".toList := .of_plain rfl
  have on : Json.Spells "true".toList (.value (.bool true)) [] :=
    .word (show ("true", Value.bool true) ∈ Json.words by simp [Json.words])
  have inside := Json.Spells.lastMember
    (.member Json.isGap_nil plain Json.isGap_nil (.item Json.isGap_nil on Json.isGap_nil))
  have object : Json.IsObject shapedWorld.input.toList [("isUrl", .bool true)] [] :=
    ⟨[], _, [], Json.isGap_nil, inside, Json.isGap_nil, rfl⟩
  have read := (Json.read_of_isObject object).eq_ok fun _ member => absurd member List.not_mem_nil
  rw [World.document_eq (show shapedWorld.textAt "-" = .ok shapedWorld.input.toList from rfl), read]
  rfl

theorem means_document (path : String) : Means .build ["--config=" ++ path] [.document path] := by
  have own : IsOwn .build ⟨["--config"], textValue .document⟩ "--config" :=
    ⟨by decide, by decide, by decide, rfl, by decide⟩
  exact means_attached own rfl rfl rfl

theorem parse_shapedSettings :
    parse ["build", "--config=-", "--shape", "email", "--prefix=", "--min-length=0"] =
      .ok ⟨false, .build, shapedSettings⟩ := by
  have build : Command.build ≠ .shapes := nofun
  have document := means_document "-"
  have shape := means_shape build .email
  have opening := means_text build (show Scalar.opening.kind = .text from rfl) ""
  have least := means_number build (show Scalar.minLength.kind = .number from rfl)
    (show Numeral.readInt? "0".toList = some 0 by decide +kernel)
  exact parse_of_means (document.append (shape.append (opening.append least)))

theorem configOf_of_parse_shaped :
    parse ["build", "--config=-", "--shape", "email", "--prefix=", "--min-length=0"] =
        .ok ⟨false, .build, shapedSettings⟩ ∧
      IsBase shapedWorld shapedSettings shapedConfig ∧
      ∃ other, configOf shapedWorld shapedSettings = .ok other ∧
        other.scalar .minLength = .int 0 ∧ other.scalar .opening = .text "" ∧
        other.get (.scalar (.shape .url)) = .bool true ∧ Shape.select? other = some .email := by
  obtain ⟨_, other, configured, overlaid, asked⟩ :=
    configOf_of_parse parse_shapedSettings document_shapedWorld
  refine ⟨parse_shapedSettings, document_shapedWorld, other, configured,
    overlaid.number _ _ rfl, overlaid.text _ _ rfl, overlaid.kept _ ?_, asked.trans ?_⟩
  · decide
  · decide +kernel

end Patternwright.CommandLine
