import Patternwright.Proofs.CommandLine.Overlay
import Patternwright.Proofs.Number.Numeral
import Patternwright.Proofs.Pipeline.Draft

/-!
# Configurations written as options

Options can say whatever a configuration of the usual kinds of values says. Each field is written
with the option that is named for it, unless it has its default; then a command with these options
gets this configuration, in whatever order the fields are written.

Nothing is asked of texts and of words that are given one by one. Words that are given all at once
must not begin with a hyphen.

## Main definitions

* `Setting.written`, `Setting.IsWritable` — a setting as words of a command line
* `Config.IsExpressible` — a configuration with values of the usual kinds
* `Config.settingsFor` — the settings that give a field its value
* `Describes` — settings that give a field its value in one of the ways there are

## Main results

* `parse_written` — settings that were written are read back
* `configOf_settingsFor` — a configuration is that of its own settings
* `configOf_written` — and so it is that of a command line
-/

namespace Patternwright

open Regex (IsShort)

namespace CommandLine

/-! ### Settings as words -/

/-- A setting about a field as words of a command line. -/
def Setting.written : Setting → List String
  | switch field => [Field.option (.scalar field)]
  | shape asked => ["--shape", asked.name]
  | textField field text => [Field.option (.scalar field) ++ "=" ++ text]
  | numberField field n => [Field.option (.scalar field) ++ "=" ++ toString n]
  | word field text => [Field.option (.list field) ++ "=" ++ text]
  | words field texts => Field.option (.list field) :: texts
  | _ => []

/-- A setting is about a field of its own kind, with a value that can be written. -/
def Setting.IsWritable : Setting → Prop
  | switch field => field.kind = .switch
  | shape _ => True
  | textField field _ => field.kind = .text
  | numberField field n => field.kind = .number ∧ IsShort n
  | word field _ => field.isCollected = true
  | words field texts => field.isCollected = false ∧ texts ≠ [] ∧ ∀ text ∈ texts, IsPlain text
  | _ => False

section Written

variable {command : Command} {setting : Setting} {settings : List Setting}

theorem Setting.IsWritable.isOffered (writable : setting.IsWritable) : setting.IsOffered := by
  cases setting with
  | switch | textField | word => exact writable
  | numberField | words => exact writable.1
  | _ => trivial

/-- A setting that was written is read back. -/
theorem means_written (configured : command ≠ .shapes) (writable : setting.IsWritable) :
    Means command setting.written [setting] := by
  cases setting with
  | switch field => exact means_switch configured writable
  | shape asked => exact means_shape configured asked
  | textField field text => exact means_text configured writable text
  | numberField field n =>
    exact means_number configured writable.1 (Numeral.readInt?_numeral writable.2)
  | word field text => exact means_word configured writable text
  | words field texts =>
    obtain ⟨whole, nonempty, plain⟩ := writable
    cases texts with
    | nil => exact absurd rfl nonempty
    | cons text texts => exact means_words configured whole plain
  | _ => exact absurd writable not_false

/-- Settings that were written behind a command are read back. -/
theorem parse_written (configured : command ≠ .shapes)
    (writable : ∀ setting ∈ settings, setting.IsWritable) :
    parse (command.name :: settings.flatMap Setting.written) = .ok ⟨false, command, settings⟩ := by
  have means : Means command (settings.flatMap Setting.written)
      (settings.flatMap fun setting => [setting]) :=
    means_flatMap fun setting member => means_written configured (writable setting member)
  rw [List.flatMap_singleton'] at means
  exact parse_of_means means

end Written

end CommandLine

/-! ### Configurations as settings -/

open CommandLine

/-- The setting that turns a field on. -/
def Scalar.turnOn : Scalar → Setting
  | shape asked => .shape asked
  | field => .switch field

namespace Config

/-- The values are those that options can give: switches and shapes are on or off, texts and numbers
are there or not, and words are texts. Words that are given all at once begin with no hyphen. -/
structure IsExpressible (config : Config) : Prop where
  switch : ∀ field : Scalar, field.kind = .switch → ∃ on, config.scalar field = .bool on
  shape : ∀ shape, ∃ on, config.scalar (.shape shape) = .bool on
  custom : ∃ text, config.scalar .custom = .text text
  text : ∀ field : Scalar, field.kind = .text → field ≠ .custom → IsText (config.scalar field)
  number : ∀ field : Scalar, field.kind = .number → IsCount (config.scalar field)
  list : ∀ field, ∃ texts : List String, config.list field = texts.map .text ∧
    (field.isCollected = false → ∀ text ∈ texts, IsPlain text)

/-- The words of a list as texts. -/
def texts (config : Config) (field : ListField) : List String :=
  (config.list field).filterMap fun | .text text => some text | _ => none

/-- The settings that give a field its value. A field with its default needs none. -/
def settingsFor (config : Config) : Field → List Setting
  | .scalar field =>
    match config.scalar field with
    | .bool true => [field.turnOn]
    | .text text => if field = .custom ∧ text = "" then [] else [.textField field text]
    | .int n => [.numberField field n]
    | _ => []
  | .list field =>
    if field.isCollected then (config.texts field).map (.word field)
    else if config.texts field = [] then [] else [.words field (config.texts field)]

/-- A configuration as words behind a command: the options that give the fields their values, in the
order of the fields. -/
def written (config : Config) (fields : List Field) : List String :=
  (fields.flatMap config.settingsFor).flatMap Setting.written

end Config

namespace CommandLine

/-- Settings give a field its value. -/
inductive Describes (config : Config) : Field → List Setting → Prop
  | default {field : Field} (same : config.get field = Config.default.get field) :
    Describes config field []
  | switch {field : Scalar} (kind : field.kind = .switch) (on : config.scalar field = .bool true) :
    Describes config (.scalar field) [.switch field]
  | shape {shape : Shape} (on : config.scalar (.shape shape) = .bool true) :
    Describes config (.scalar (.shape shape)) [.shape shape]
  | text {field : Scalar} {text : String} (kind : field.kind = .text)
    (given : config.scalar field = .text text) :
    Describes config (.scalar field) [.textField field text]
  | number {field : Scalar} {n : Int} (kind : field.kind = .number) (short : IsShort n)
    (given : config.scalar field = .int n) : Describes config (.scalar field) [.numberField field n]
  | word {field : ListField} {texts : List String} (collected : field.isCollected = true)
    (nonempty : texts ≠ []) (given : config.list field = texts.map .text) :
    Describes config (.list field) (texts.map (.word field))
  | words {field : ListField} {texts : List String} (whole : field.isCollected = false)
    (nonempty : texts ≠ []) (plain : ∀ text ∈ texts, IsPlain text)
    (given : config.list field = texts.map .text) :
    Describes config (.list field) [.words field texts]

section Describes

variable {config : Config} {field : Field} {settings : List Setting} {setting : Setting}

theorem Describes.isWritable (describes : Describes config field settings) :
    ∀ setting ∈ settings, setting.IsWritable := by
  cases describes with
  | default same => nofun
  | switch kind | text kind => exact List.forall_mem_singleton.mpr kind
  | shape on => exact List.forall_mem_singleton.mpr trivial
  | number kind short => exact List.forall_mem_singleton.mpr ⟨kind, short⟩
  | word collected => exact List.forall_mem_map.mpr fun _ _ => collected
  | words whole nonempty plain => exact List.forall_mem_singleton.mpr ⟨whole, nonempty, plain⟩

/-- The settings are about the field. -/
theorem Describes.field?_eq (describes : Describes config field settings) :
    ∀ setting ∈ settings, setting.field? = some field := by
  cases describes with
  | default same => nofun
  | word collected => exact List.forall_mem_map.mpr fun _ _ => rfl
  | _ => exact List.forall_mem_singleton.mpr rfl

theorem default_eq_of_switch {field : Scalar} (kind : field.kind = .switch) :
    field.default = .bool false := by
  cases field <;> first | rfl | cases kind

theorem default_eq_of_text {field : Scalar} (kind : field.kind = .text) (other : field ≠ .custom) :
    field.default = .null := by
  cases field <;> first | rfl | exact absurd rfl other | cases kind

theorem default_eq_of_number {field : Scalar} (kind : field.kind = .number) :
    field.default = .null := by
  cases field <;> first | rfl | cases kind

theorem turnOn_eq_switch {field : Scalar} (kind : field.kind = .switch) :
    field.turnOn = .switch field := by
  cases field <;> first | rfl | cases kind

theorem texts_eq {field : ListField} {texts : List String}
    (given : config.list field = texts.map .text) : config.texts field = texts := by
  rw [Config.texts, given, List.filterMap_map]
  exact List.filterMap_some

section

variable (expressible : config.IsExpressible)

include expressible

theorem describes_scalar (field : Scalar) :
    Describes config (.scalar field) (config.settingsFor (.scalar field)) := by
  have unset {v : Value} (value : config.scalar field = v) (same : field.default = v) :
      Describes config (.scalar field) [] := .default (value.trans same.symm)
  unfold Config.settingsFor
  cases kind : field.kind with
  | switch =>
    obtain ⟨on, value⟩ := expressible.switch field kind
    cases on with
    | false => simpa only [value] using unset value (default_eq_of_switch kind)
    | true => simpa only [value, turnOn_eq_switch kind] using Describes.switch kind value
  | shape =>
    obtain ⟨shape, rfl⟩ := eq_shape_of_kind kind
    obtain ⟨on, value⟩ := expressible.shape shape
    cases on with
    | false => simpa only [value] using unset value rfl
    | true =>
      simp only [value]
      exact .shape value
  | text =>
    by_cases custom : field = .custom
    · subst custom
      obtain ⟨text, value⟩ := expressible.custom
      by_cases empty : text = ""
      · subst empty
        simpa [value] using unset value rfl
      · simpa [value, empty] using Describes.text kind value
    · rcases expressible.text field kind custom with value | ⟨text, value⟩
      · simpa only [value] using unset value (default_eq_of_text kind custom)
      · simpa [value, custom] using Describes.text kind value
  | number =>
    rcases expressible.number field kind with value | ⟨n, value, short⟩
    · simpa only [value] using unset value (default_eq_of_number kind)
    · simpa only [value] using Describes.number kind short value

theorem describes_list (field : ListField) :
    Describes config (.list field) (config.settingsFor (.list field)) := by
  obtain ⟨texts, given, plain⟩ := expressible.list field
  simp only [Config.settingsFor, texts_eq given]
  by_cases empty : texts = []
  · subst empty
    have same : config.get (.list field) = Config.default.get (.list field) :=
      congrArg Value.list given
    simpa using Describes.default same
  · cases collected : field.isCollected with
    | true => simpa [collected] using Describes.word collected empty given
    | false => simpa [collected, empty] using Describes.words collected empty (plain collected) given

/-- Each field is described by its settings. -/
theorem describes_settingsFor (field : Field) :
    Describes config field (config.settingsFor field) := by
  cases field with
  | scalar field => exact describes_scalar expressible field
  | list field => exact describes_list expressible field

end

/-! ### The configuration of its own settings -/

theorem flatMap_eq_of_mem {α β : Type} {f : α → List β} {items : List α} {a : α} (once : items.Nodup)
    (member : a ∈ items) (others : ∀ b ∈ items, b ≠ a → f b = []) : items.flatMap f = f a := by
  obtain ⟨before, behind, rfl⟩ := List.append_of_mem member
  obtain ⟨_, once, apart⟩ := List.nodup_append.mp once
  have none' : ∀ b ∈ before, f b = [] := fun b among =>
    others b (by simp [among]) (apart b among a List.mem_cons_self)
  have none'' : ∀ b ∈ behind, f b = [] := fun b among =>
    others b (by simp [among]) (ne_of_mem_of_not_mem among (List.nodup_cons.mp once).1)
  rw [List.flatMap_append, List.flatMap_cons, List.flatMap_eq_nil_iff.mpr none',
    List.flatMap_eq_nil_iff.mpr none'', List.nil_append, List.append_nil]

variable {fields : List Field} {other : Config}

/-- Of all settings, those about a field are its own. -/
theorem mem_settingsFor (describes : ∀ field, Describes config field (config.settingsFor field))
    (member : setting ∈ fields.flatMap config.settingsFor) (about : setting.field? = some field) :
    setting ∈ config.settingsFor field := by
  obtain ⟨owner, _, found⟩ := List.mem_flatMap.mp member
  obtain rfl : owner = field :=
    Option.some.inj (((describes owner).field?_eq setting found).symm.trans about)
  exact found

/-- The words that settings add to a list are those of its own settings. -/
theorem addedWords_flatMap (describes : ∀ field, Describes config field (config.settingsFor field))
    (once : fields.Nodup) {field : ListField} (member : .list field ∈ fields) :
    addedWords field (fields.flatMap config.settingsFor) =
      addedWords field (config.settingsFor (.list field)) := by
  rw [addedWords, List.filterMap_flatMap]
  -- The settings of another field add no words to this list.
  refine flatMap_eq_of_mem once member fun owner _ differs => ?_
  rw [List.filterMap_eq_nil_iff]
  intro setting found
  have about := (describes owner).field?_eq setting found
  cases setting with
  | word words text =>
    have ne : words ≠ field := by
      rintro rfl
      exact differs (Option.some.inj about).symm
    simp [ne]
  | _ => rfl

/-- The only setting about a field gives the last value of its kind. -/
theorem last?_eq_some_of_only {α : Type} {pick : Setting → Option α} {a : α}
    (member : setting ∈ settings)
    (only : ∀ other ∈ settings, other.field? = some field → other ∈ [setting])
    (picked : pick setting = some a)
    (about : ∀ other b, pick other = some b → other.field? = some field) :
    last? pick settings = some a := by
  refine last?_eq_some ⟨setting, member, picked⟩ fun other among b found => ?_
  obtain rfl := List.mem_singleton.mp (only other among (about other b found))
  exact Option.some.inj (found.symm.trans picked)

/-- A configuration that has the settings of another one, and else the defaults, has its values. -/
theorem get_eq_of_isOverlaid (describes : ∀ field, Describes config field (config.settingsFor field))
    (once : fields.Nodup) (all : ∀ field, field ∈ fields)
    (overlaid : IsOverlaid (fields.flatMap config.settingsFor) Config.default other)
    (field : Field) : other.get field = config.get field := by
  have own := describes field
  have inside : ∀ setting ∈ config.settingsFor field,
      setting ∈ fields.flatMap config.settingsFor :=
    fun setting found => List.mem_flatMap.mpr ⟨field, all field, found⟩
  have only : ∀ setting ∈ fields.flatMap config.settingsFor, setting.field? = some field →
      setting ∈ config.settingsFor field :=
    fun setting member about => mem_settingsFor describes member about
  have added : ∀ words, field = .list words →
      addedWords words (fields.flatMap config.settingsFor) =
        addedWords words (config.settingsFor field) := by
    rintro words rfl
    exact addedWords_flatMap describes once (all _)
  -- From here on it only matters in which way the settings describe the field.
  generalize config.settingsFor field = settings at own inside only added
  cases own with
  | default same =>
    refine (overlaid.kept field fun setting member about => ?_).trans same.symm
    exact List.not_mem_nil (only setting member about)
  | switch kind on => exact (overlaid.switch _ (inside _ (by simp))).trans on.symm
  | shape on => exact (overlaid.shape _ (inside _ (by simp))).trans on.symm
  | @text field text kind given =>
    have last : last? (textOf field) (fields.flatMap config.settingsFor) = some text := by
      refine last?_eq_some_of_only (inside _ List.mem_cons_self) only (by simp [textOf]) ?_
      intro other text' picked
      rw [textOf_eq_some_iff.mp picked, Setting.field?]
    exact (overlaid.text field text last).trans given.symm
  | @number field n kind short given =>
    have last : last? (numberOf field) (fields.flatMap config.settingsFor) = some n := by
      refine last?_eq_some_of_only (inside _ List.mem_cons_self) only (by simp [numberOf]) ?_
      intro other n' picked
      rw [numberOf_eq_some_iff.mp picked, Setting.field?]
    exact (overlaid.number field n last).trans given.symm
  | @word words texts collected nonempty given =>
    obtain ⟨text, found⟩ := List.exists_mem_of_ne_nil texts nonempty
    have list := overlaid.word words text (inside _ (List.mem_map_of_mem found))
    have own : addedWords words (texts.map (.word words)) = texts := by
      simp [addedWords, List.filterMap_map]
    rw [added words rfl, own] at list
    exact congrArg Value.list (list.trans given.symm)
  | @words words texts whole nonempty plain given =>
    have last : last? (wordsOf words) (fields.flatMap config.settingsFor) = some texts := by
      refine last?_eq_some_of_only (inside _ List.mem_cons_self) only (by simp [wordsOf]) ?_
      intro other texts' picked
      rw [wordsOf_eq_some_iff.mp picked, Setting.field?]
    exact congrArg Value.list ((overlaid.words words texts last).trans given.symm)

theorem eq_of_get (same : ∀ field, other.get field = config.get field) : other = config := by
  obtain ⟨scalar, list⟩ := config
  obtain ⟨scalar', list'⟩ := other
  obtain rfl : scalar' = scalar := funext fun field => same (.scalar field)
  obtain rfl : list' = list := funext fun field => Value.list.inj (same (.list field))
  rfl

/-- A configuration is that of the settings that describe it, whatever files there are. -/
theorem configOf_settingsFor (expressible : config.IsExpressible) (once : fields.Nodup)
    (all : ∀ field, field ∈ fields) (world : World) :
    configOf world (fields.flatMap config.settingsFor) = .ok config := by
  have describes := describes_settingsFor expressible
  have own : ∀ setting ∈ fields.flatMap config.settingsFor, ∃ field, setting.field? = some field ∧
      setting.IsWritable := by
    intro setting member
    obtain ⟨field, _, found⟩ := List.mem_flatMap.mp member
    exact ⟨field, (describes field).field?_eq setting found,
      (describes field).isWritable setting found⟩
  -- All settings are about fields, and so none of them names a document.
  have base : IsBase world (fields.flatMap config.settingsFor) Config.default := by
    have unnamed : documentOf? (fields.flatMap config.settingsFor) = none := by
      rw [documentOf?, last?_eq_none, Option.filter_none]
      intro setting member
      obtain ⟨field, about, _⟩ := own setting member
      cases setting <;> simp_all [Setting.field?]
    rw [IsBase, unnamed]
  have offered : ∀ setting ∈ fields.flatMap config.settingsFor, setting.IsOffered := by
    intro setting member
    obtain ⟨_, _, writable⟩ := own setting member
    exact writable.isOffered
  obtain ⟨other, configured, overlaid⟩ := exists_isOverlaid offered base
  rw [configured, eq_of_get (get_eq_of_isOverlaid describes once all overlaid)]

end Describes

/-- A configuration is that of a command with its options, in whatever order the fields are
written. -/
theorem configOf_written {config : Config} (expressible : config.IsExpressible) {fields : List Field}
    (order : fields.Perm Field.all) {command : Command} (configured : command ≠ .shapes) :
    ∃ settings, parse (command.name :: config.written fields) = .ok ⟨false, command, settings⟩ ∧
      ∀ world, configOf world settings = .ok config := by
  have once : fields.Nodup := order.nodup_iff.mpr (by decide +kernel)
  have all : ∀ field, field ∈ fields := fun field => order.mem_iff.mpr field.mem_all
  refine ⟨fields.flatMap config.settingsFor, parse_written configured ?_,
    configOf_settingsFor expressible once all⟩
  intro setting member
  obtain ⟨field, _, found⟩ := List.mem_flatMap.mp member
  exact (describes_settingsFor expressible field).isWritable setting found

/-- Fields in the order of their kinds: switches, shapes, single values, words one by one and words
all at once. -/
def fieldsByKind : List Field :=
  [[.switch], [.shape], [.text, .number]].flatMap (fun kinds : List Scalar.Kind =>
    Field.all.filter fun | .scalar field => field.kind ∈ kinds | .list _ => false) ++
  [true, false].flatMap fun collected =>
    Field.all.filter fun | .scalar _ => false | .list field => field.isCollected = collected

/-- A configuration with texts and words that begin with a hyphen, and with an empty end. -/
def hyphenatedConfig : Config where
  scalar
    | .digits | .dotAll | .shape .url | .shape .creditCard => .bool true
    | .minLength => .int (-2)
    | .opening => .text ""
    | .closing => .text "-=x"
    | field => field.default
  list
    | .mustContain => [.text "", .text "-x", .text "--"]
    | .allowedWords => [.text "a b", .text "="]
    | .cardBrands => [.text "Visa"]
    | _ => []

theorem isExpressible_hyphenatedConfig : hyphenatedConfig.IsExpressible where
  switch field kind := by
    cases field <;> first | exact ⟨_, rfl⟩ | cases kind
  shape shape := by cases shape <;> exact ⟨_, rfl⟩
  custom := ⟨"", rfl⟩
  text field kind other := by
    cases field <;> first | exact .inl rfl | exact .inr ⟨_, rfl⟩ | cases kind
  number field kind := by
    have short : IsShort (-2) := Regex.isShort_of_digit (by decide)
    cases field <;> first | exact .inl rfl | exact .inr ⟨_, rfl, short⟩ | cases kind
  list field := by
    cases field with
    | mustContain => exact ⟨["", "-x", "--"], rfl, nofun⟩
    | allowedWords => exact ⟨["a b", "="], rfl, fun _ => by decide⟩
    | cardBrands => exact ⟨["Visa"], rfl, fun _ => by decide⟩
    | _ => exact ⟨[], rfl, nofun⟩

theorem configOf_written_hyphenated :
    hyphenatedConfig.IsExpressible ∧ fieldsByKind.Perm Field.all ∧ Command.build ≠ .shapes ∧
      ∃ settings, parse ["build", "--digits", "--dotall", "--shape", "url", "--shape",
          "credit_card", "--min-length=-2", "--prefix=", "--suffix=-=x", "--must-contain=",
          "--must-contain=-x", "--must-contain=--", "--allowed-words", "a b", "=", "--cards",
          "Visa"] = .ok ⟨false, .build, settings⟩ ∧
        ∀ world, configOf world settings = .ok hyphenatedConfig := by
  have order : fieldsByKind.Perm Field.all := by decide +kernel
  exact ⟨isExpressible_hyphenatedConfig, order, nofun,
    configOf_written isExpressible_hyphenatedConfig order (show Command.build ≠ .shapes from nofun)⟩

end CommandLine

end Patternwright
