import Patternwright.Proofs.CommandLine.Settings
import Patternwright.Proofs.Config.Keys

/-!
# Options and fields

Most options are named for a field of the configuration, and what they make is about this field. A
field with one value is a switch, a shape, a text or a number; words are given to a list one by one
or all at once. The kinds keep the options apart: no two of them are about the same field, save that
one option names all shapes.

## Main definitions

* `Scalar.kind`, `ListField.isCollected` — what options say about a field
* `Field.option`, `Field.spec` — the option that is named for a field
* `Setting.field?`, `Setting.IsOffered` — the field that a setting is about, and its kind
* `OptionSpec.Fits` — an option makes settings about the field that it is named for

## Main results

* `fits_options` — this holds of the options of each command
* `isOffered_of_parse` — the settings of a command line are of the right kind
-/

namespace Patternwright

open CommandLine

/-! ### Options and fields -/

/-- What an option says about a field with one value. -/
inductive Scalar.Kind where
  | switch
  | shape
  | text
  | number
  deriving DecidableEq

/-- The kind of a field with one value. -/
def Scalar.kind : Scalar → Kind
  | digits | letters | whitespace | special | arabic => .switch
  | caseInsensitive | multiLine | dotAll => .switch
  | .shape _ => .shape
  | custom | opening | closing | dateFormat | timeFormat => .text
  | minLength | maxLength | exactRepetitions | minRepetitions | maxRepetitions => .number

theorem eq_shape_of_kind {field : Scalar} (kind : field.kind = .shape) :
    ∃ asked, field = .shape asked := by
  cases field <;> first | exact ⟨_, rfl⟩ | cases kind

/-- The words of a field are given one by one. -/
def ListField.isCollected : ListField → Bool
  | mustContain | mustNotContain => true
  | allowedWords | disallowedWords | cardBrands => false

/-- The name of the option that sets a field. All shapes share one option. -/
def Field.option : Field → String
  | scalar .digits => "--digits"
  | scalar .letters => "--letters"
  | scalar .whitespace => "--whitespace"
  | scalar .special => "--special"
  | scalar .arabic => "--arabic"
  | scalar .caseInsensitive => "--ignore-case"
  | scalar .multiLine => "--multiline"
  | scalar .dotAll => "--dotall"
  | scalar .custom => "--custom"
  | scalar (.shape _) => "--shape"
  | scalar .minLength => "--min-length"
  | scalar .maxLength => "--max-length"
  | scalar .exactRepetitions => "--exact-repetitions"
  | scalar .minRepetitions => "--min-repetitions"
  | scalar .maxRepetitions => "--max-repetitions"
  | scalar .opening => "--prefix"
  | scalar .closing => "--suffix"
  | scalar .dateFormat => "--date-format"
  | scalar .timeFormat => "--time-format"
  | list .mustContain => "--must-contain"
  | list .mustNotContain => "--must-not-contain"
  | list .allowedWords => "--allowed-words"
  | list .disallowedWords => "--disallowed-words"
  | list .cardBrands => "--cards"

/-- The values that set a field. -/
def Field.takes : Field → Takes
  | scalar field =>
    match field.kind with
    | .switch => switchTo (.switch field)
    | .shape => choiceValue (Shape.all.map fun shape => (shape.name, shape)) .shape
    | .text => textValue (.textField field)
    | .number => numberValue (.numberField field)
  | list field => if field.isCollected then textValue (.word field) else wordList (.words field)

/-- The option that sets a field. -/
def Field.spec (field : Field) : OptionSpec := ⟨[field.option], field.takes⟩

namespace CommandLine

/-- The field that a setting is about. -/
def Setting.field? : Setting → Option Field
  | switch field | textField field _ | numberField field _ => some (.scalar field)
  | shape asked => some (.scalar (.shape asked))
  | word field _ | words field _ => some (.list field)
  | _ => none

/-- A setting is of the kind that its field has. -/
def Setting.IsOffered : Setting → Prop
  | switch field => field.kind = .switch
  | textField field _ => field.kind = .text
  | numberField field _ => field.kind = .number
  | word field _ => field.isCollected = true
  | words field _ => field.isCollected = false
  | _ => True

/-- What an option makes is of the kind that its field has, and it is about a field just if the
option is named for this field. -/
def OptionSpec.Fits (spec : OptionSpec) : Prop :=
  ∀ setting, spec.takes.Makes setting →
    setting.IsOffered ∧
      ∀ field : Field, spec.names = [field.option] ↔
        setting.field?.map Field.option = some field.option

theorem makes_textValue {make : String → Setting} {setting : Setting}
    (makes : (textValue make).Makes setting) : ∃ text, setting = make text := by
  obtain _ | ⟨⟨⟩⟩ := makes
  exact ⟨_, rfl⟩

theorem makes_numberValue {make : Int → Setting} {setting : Setting}
    (makes : (numberValue make).Makes setting) : ∃ n, setting = make n := by
  obtain _ | accepted := makes
  dsimp only at accepted
  split at accepted
  · exact ⟨_, (Except.ok.inj accepted).symm⟩
  · cases accepted

theorem makes_choiceValue {α : Type} {choices : List (String × α)} {make : α → Setting}
    {setting : Setting} (makes : (choiceValue choices make).Makes setting) :
    ∃ choice, setting = make choice := by
  obtain _ | accepted := makes
  dsimp only at accepted
  split at accepted
  · exact ⟨_, (Except.ok.inj accepted).symm⟩
  · cases accepted

/-! ### The options of each command -/

/-- An option that is named for no field, whose settings are about no field. -/
theorem fits_of_free {spec : OptionSpec} (foreign : ∀ field ∈ Field.all, spec.names ≠ [field.option])
    (each : ∀ setting, spec.takes.Makes setting → setting.field? = none) : spec.Fits := by
  intro setting makes
  have free := each setting makes
  refine ⟨?_, fun field => by simp [free, foreign field field.mem_all]⟩
  cases setting with
  | help | version | verbose | document | layout | out | sample | samples | expect => trivial
  | _ => cases free

/-- The option that sets a field. -/
theorem fits_spec (field : Field) : field.spec.Fits := by
  intro setting makes
  rw [Field.spec] at makes
  dsimp only at makes
  cases field with
  | scalar field =>
    cases kind : field.kind with
    | switch =>
      simp only [Field.takes, kind] at makes
      obtain ⟨⟩ := makes
      exact ⟨kind, fun other => by simp [Field.spec, Setting.field?]⟩
    | shape =>
      simp only [Field.takes, kind] at makes
      obtain ⟨shape, rfl⟩ := makes_choiceValue makes
      obtain ⟨asked, rfl⟩ := eq_shape_of_kind kind
      exact ⟨trivial, fun other => by simp [Field.spec, Setting.field?, Field.option]⟩
    | text =>
      simp only [Field.takes, kind] at makes
      obtain ⟨text, rfl⟩ := makes_textValue makes
      exact ⟨kind, fun other => by simp [Field.spec, Setting.field?]⟩
    | number =>
      simp only [Field.takes, kind] at makes
      obtain ⟨n, rfl⟩ := makes_numberValue makes
      exact ⟨kind, fun other => by simp [Field.spec, Setting.field?]⟩
  | list field =>
    cases collected : field.isCollected with
    | true =>
      simp only [Field.takes, collected, if_true] at makes
      obtain ⟨text, rfl⟩ := makes_textValue makes
      exact ⟨collected, fun other => by simp [Field.spec, Setting.field?]⟩
    | false =>
      simp only [Field.takes, collected] at makes
      obtain ⟨⟩ := makes
      exact ⟨collected, fun other => by simp [Field.spec, Setting.field?]⟩

section Free

variable {names : List String}

theorem fits_free_text {make : String → Setting}
    (foreign : ∀ field ∈ Field.all, names ≠ [field.option])
    (free : ∀ text, (make text).field? = none) : OptionSpec.Fits ⟨names, textValue make⟩ := by
  apply fits_of_free foreign
  intro setting makes
  obtain ⟨text, rfl⟩ := makes_textValue makes
  exact free text

theorem fits_free_choice {α : Type} {choices : List (String × α)} {make : α → Setting}
    (foreign : ∀ field ∈ Field.all, names ≠ [field.option])
    (free : ∀ choice, (make choice).field? = none) :
    OptionSpec.Fits ⟨names, choiceValue choices make⟩ := by
  apply fits_of_free foreign
  intro setting makes
  obtain ⟨choice, rfl⟩ := makes_choiceValue makes
  exact free choice

theorem fits_help : helpOption.Fits := by
  apply fits_of_free (by decide)
  rintro _ ⟨⟩
  rfl

theorem fits_layout : layoutOption.Fits := fits_free_choice (by decide) fun _ => rfl

end Free

theorem fits_configOptions : ∀ spec ∈ configOptions, spec.Fits := by
  have scalar (field : Scalar) : (Field.scalar field).spec.Fits := fits_spec _
  have list (field : ListField) : (Field.list field).spec.Fits := fits_spec _
  simp only [configOptions, List.forall_mem_cons]
  exact ⟨fits_free_text (by decide) fun _ => rfl, scalar .digits, scalar .letters,
    scalar .whitespace, scalar .special, scalar .arabic, scalar .caseInsensitive,
    scalar .multiLine, scalar .dotAll, scalar .custom, scalar (.shape .url), scalar .minLength,
    scalar .maxLength, scalar .exactRepetitions, scalar .minRepetitions, scalar .maxRepetitions,
    scalar .opening, scalar .closing, list .mustContain, list .mustNotContain, list .allowedWords,
    list .disallowedWords, scalar .dateFormat, scalar .timeFormat, list .cardBrands, nofun⟩

/-- What an option of a command makes is of the right kind, and about the field that the option is
named for. -/
theorem fits_options (command : Command) : ∀ spec ∈ command.options, spec.Fits := by
  cases command with
  | build =>
    simp only [Command.options, List.forall_mem_append, List.forall_mem_cons]
    exact ⟨⟨fits_help, fits_configOptions⟩, fits_layout,
      fits_free_text (by decide) fun _ => rfl, nofun⟩
  | test =>
    simp only [Command.options, List.forall_mem_append, List.forall_mem_cons]
    exact ⟨⟨fits_help, fits_configOptions⟩, fits_free_text (by decide) fun _ => rfl,
      fits_free_text (by decide) fun _ => rfl, fits_free_choice (by decide) fun _ => rfl, nofun⟩
  | explain =>
    simp only [Command.options, List.forall_mem_append, List.forall_mem_cons]
    exact ⟨⟨fits_help, fits_configOptions⟩, fits_layout, nofun⟩
  | shapes =>
    simp only [Command.options, List.forall_mem_cons]
    exact ⟨fits_help, fits_layout, nofun⟩

/-- The settings of a command line are of the right kind. -/
theorem isOffered_of_parse {line : List String} {request : Request}
    (parsed : parse line = .ok request) : ∀ setting ∈ request.settings, setting.IsOffered := by
  intro setting member
  obtain ⟨spec, among, makes⟩ := makes_of_parse parsed setting member
  exact (fits_options _ spec among setting makes).1

end CommandLine

end Patternwright
