import Mathlib.Data.List.TakeDrop
import Mathlib.Data.List.TakeWhile
import Patternwright.Proofs.CommandLine.FieldOption

/-!
# Lines written option by option

A command line that gives each option by its full name means what its parts mean. An option that
takes one value has it behind `=`, where it may be any text: it may be empty, begin with a hyphen or
have more of `=` in it. Values in words of their own are not as free, since a hyphen at the start of
a word is that of an option.

A part of a line is read twice. The options before a command only have to let it pass; what it means
is up to the options of the command.

## Main definitions

* `IsOwn` — a full name of an option of a command
* `Gives` — the settings that words give behind a command
* `Means` — the settings that words give, whatever stands behind them

## Main results

* `means_alone`, `means_attached`, `means_value`, `means_behind` — an option without and with values
* `means_switch`, `means_text`, `means_number`, `means_shape`, `means_word`, `means_words` — the
  options that set a field
* `parse_of_means` — a command with parts behind it is a request
-/

namespace Patternwright.CommandLine

/-! ### Words -/

/-- A text that is plain behind any option: it begins with no hyphen. -/
def IsPlain (text : String) : Prop := text.toList.head? ≠ some '-'

instance (text : String) : Decidable (IsPlain text) := inferInstanceAs (Decidable (_ ≠ _))

section Words

variable {names : Names} {text : String}

theorem IsPlain.ne_separator (plain : IsPlain text) : text ≠ "--" := by
  rintro rfl
  exact plain rfl

theorem IsPlain.ofText (plain : IsPlain text) (names : Names) :
    Word.ofText names text = .ok (.plain text) := by
  unfold Word.ofText
  split
  · next letter more text' => simp [IsPlain, text'] at plain
  · rfl

theorem splitAtEquals_append {name : List Char} (whole : '=' ∉ name) (value : List Char) :
    splitAtEquals (name ++ '=' :: value) = (name, some value) := by
  have apart : (name ++ '=' :: value).span (· != '=') = (name, '=' :: value) := by
    rw [List.span_eq_takeWhile_dropWhile, List.takeWhile_append_of_pos, List.dropWhile_append_of_pos]
    · simp
    all_goals
      intro c member
      simpa using ne_of_mem_of_not_mem member whole
  rw [splitAtEquals, apart]

theorem splitAtEquals_of_notMem {name : List Char} (whole : '=' ∉ name) :
    splitAtEquals name = (name, none) := by
  have apart : name.span (· != '=') = (name, []) := by
    rw [List.span_eq_takeWhile_dropWhile, List.takeWhile_eq_self_iff.mpr,
      List.dropWhile_eq_nil_iff.mpr]
    all_goals
      intro c member
      simpa using ne_of_mem_of_not_mem member whole
  rw [splitAtEquals, apart]

/-- A long option that is the beginning of no name is let pass. -/
theorem exists_ofText {rest beginning : List Char} (long : text.toList = '-' :: '-' :: rest)
    (begins : (splitAtEquals text.toList).1 = beginning)
    (foreign : ∀ entry ∈ names, ¬ beginning.isPrefixOf entry.1.toList) :
    ∃ word, Word.ofText names text = .ok word := by
  have none' : readings names text.toList = [] := by
    rw [long] at begins ⊢
    rw [readings]
    dsimp only
    rw [begins, List.filter_eq_nil_iff.mpr foreign, List.map_nil]
  have other : ∃ word, Word.ofOtherText names text = .ok word := by
    rw [Word.ofOtherText, none']
    simp only
    split <;> exact ⟨_, rfl⟩
  -- A full name is an option, with or without a value, and any other word has no reading.
  unfold Word.ofText
  split
  · split
    · exact ⟨_, rfl⟩
    split
    · exact other
    split
    · exact ⟨_, rfl⟩
    · exact other
  · exact ⟨_, rfl⟩

/-- If each word is recognised, all are. -/
theorem exists_recognise {texts : List String}
    (each : ∀ text ∈ texts, ∃ word, Word.ofText names text = .ok word) :
    ∃ words, recognise names texts = .ok words ∧ words.length = texts.length := by
  induction texts using recognise.induct with
  | case1 => exact ⟨[], rfl, rfl⟩
  | case2 texts => exact ⟨.separator :: texts.map .plain, rfl, by simp⟩
  | case3 text texts other ih =>
    obtain ⟨word, here⟩ := each text List.mem_cons_self
    obtain ⟨words, behind, length⟩ := ih fun text member => each text (List.mem_cons_of_mem _ member)
    refine ⟨word :: words, ?_, by simp [length]⟩
    rw [recognise.eq_3 _ _ _ other, here, ok_bind, behind, ok_bind]
    rfl

/-- Plain words are their own values. -/
theorem recognise_append_plain {values : List String} (plain : ∀ value ∈ values, IsPlain value)
    {texts : List String} {words : List Word} (recognised : recognise names texts = .ok words) :
    recognise names (values ++ texts) = .ok (values.map .plain ++ words) := by
  induction values with
  | nil => exact recognised
  | cons value values ih =>
    obtain ⟨here, behind⟩ := List.forall_mem_cons.mp plain
    rw [List.cons_append, recognise.eq_3 _ _ _ here.ne_separator, here.ofText, ok_bind, ih behind]
    rfl

theorem plainTexts_append (values : List String) (words : List Word) :
    plainTexts (values.map .plain ++ words) = values ++ plainTexts words := by
  induction values with
  | nil => rfl
  | cons value values ih => rw [List.map_cons, List.cons_append, plainTexts, ih, List.cons_append]

end Words

/-! ### Parts of a line -/

/-- Words behind a command give settings, and none of them belongs nowhere. -/
def Gives (command : Command) (texts : List String) (settings : List Setting) : Prop :=
  ∃ words, recognise (namesOf command.options) texts = .ok words ∧ plainTexts words = [] ∧
    collect command (namesOf command.options) words = .ok (settings, [])

/-- Words are let pass before a command, and behind it they give settings, whatever stands behind
them. -/
structure Means (command : Command) (texts : List String) (settings : List Setting) : Prop where
  passes : ∀ text ∈ texts, ∃ word, Word.ofText (namesOf generalOptions) text = .ok word
  gives : ∀ more later, Gives command more later → Gives command (texts ++ more) (settings ++ later)

section Parts

variable {command : Command} {texts more : List String} {settings later : List Setting}

theorem gives_nil : Gives command [] [] := ⟨[], rfl, rfl, by rw [collect]⟩

theorem means_nil : Means command [] [] := ⟨nofun, fun _ _ gives => gives⟩

theorem Means.append (first : Means command texts settings) (second : Means command more later) :
    Means command (texts ++ more) (settings ++ later) where
  passes := List.forall_mem_append.mpr ⟨first.passes, second.passes⟩
  gives behind last gives := by
    rw [List.append_assoc, List.append_assoc]
    exact first.gives _ _ (second.gives behind last gives)

/-- Parts for all items of a list. -/
theorem means_flatMap {α : Type} {items : List α} {texts : α → List String}
    {settings : α → List Setting} (each : ∀ a ∈ items, Means command (texts a) (settings a)) :
    Means command (items.flatMap texts) (items.flatMap settings) := by
  induction items with
  | nil => exact means_nil
  | cons a items ih =>
    obtain ⟨here, behind⟩ := List.forall_mem_cons.mp each
    exact here.append (ih behind)

/-- A command with parts behind it is a request. -/
theorem parse_of_means (means : Means command texts settings) :
    parse (command.name :: texts) = .ok ⟨false, command, settings⟩ := by
  have named : IsPlain command.name := by cases command <;> decide
  have known : Command.ofName? command.name = some command := by cases command <;> rfl
  obtain ⟨passed, passes, length⟩ := exists_recognise means.passes
  obtain ⟨words, recognised, _, collected⟩ := means.gives [] [] gives_nil
  rw [List.append_nil] at recognised collected
  have line : recognise (namesOf generalOptions) (command.name :: texts) =
      .ok (.plain command.name :: passed) :=
    recognise_append_plain (List.forall_mem_singleton.mpr named) passes
  have behind : (command.name :: texts).drop ((command.name :: texts).length - passed.length) =
      texts := by
    rw [length, List.length_cons, Nat.add_sub_cancel_left, List.drop_one, List.tail_cons]
  -- The first reading only finds the command, and the second one starts behind it.
  rw [parse, line]
  simp only [complain, ok_bind, collectGeneral, known, behind, recognised, collected]
  rfl

/-! ### Options -/

/-- A full name of an option of a command. It is no beginning of a name before a command. -/
structure IsOwn (command : Command) (spec : OptionSpec) (name : String) : Prop where
  long : ['-', '-'] <+: name.toList
  named : name ≠ "--"
  whole : '=' ∉ name.toList
  found : (namesOf command.options).lookup name = some spec
  foreign : ∀ entry ∈ namesOf generalOptions, ¬ name.toList.isPrefixOf entry.1.toList

/-- No name of an option has `=` in it. -/
theorem whole_of_mem_namesOf :
    ∀ entry ∈ namesOf command.options, '=' ∉ entry.1.toList := by
  cases command <;> decide +kernel

variable {spec : OptionSpec} {name value : String} {setting : Setting}

/-- What a word that is recognised as an option of the command means, with its values behind it. -/
theorem means_option {text : String} {attached? : Option Attached} {values : List String}
    (other : text ≠ "--") (passes : ∃ word, Word.ofText (namesOf generalOptions) text = .ok word)
    (own : Word.ofText (namesOf command.options) text = .ok (.option spec name attached?))
    (plain : ∀ value ∈ values, IsPlain value)
    (taken : ∀ words, plainTexts words = [] →
      settingsAt (namesOf command.options) spec name attached? (values.map .plain ++ words) =
        .ok ([setting], [], values.length))
    (goesOn : haltAt (some command) [setting] = .ok ()) :
    Means command (text :: values) [setting] where
  passes := List.forall_mem_cons.mpr ⟨passes, fun value member => ⟨_, (plain value member).ofText _⟩⟩
  gives more later gives := by
    obtain ⟨words, recognised, none', collected⟩ := gives
    refine ⟨.option spec name attached? :: (values.map .plain ++ words), ?_, rfl, ?_⟩
    · rw [List.cons_append, recognise.eq_3 _ _ _ other, own, ok_bind,
        recognise_append_plain plain recognised]
      rfl
    · -- The option takes its values, and what is left is what stood behind them.
      have rest : (values.map Word.plain ++ words).drop values.length = words :=
        List.drop_left' (List.length_map _)
      rw [collect, taken words none']
      simp only [complain, ok_bind, goesOn, rest, collected]
      rfl

namespace IsOwn

theorem passes (own : IsOwn command spec name) :
    ∃ word, Word.ofText (namesOf generalOptions) name = .ok word := by
  obtain ⟨rest, long⟩ := own.long
  exact exists_ofText long.symm (congrArg Prod.fst (splitAtEquals_of_notMem own.whole)) own.foreign

theorem ofText (own : IsOwn command spec name) :
    Word.ofText (namesOf command.options) name = .ok (.option spec name none) := by
  obtain ⟨rest, long⟩ := own.long
  simp only [Word.ofText, ← long, List.cons_append, own.found]

theorem toList_attached (name value : String) :
    (name ++ "=" ++ value).toList = name.toList ++ '=' :: value.toList := by
  simp

theorem exists_toList_attached (own : IsOwn command spec name) (value : String) :
    ∃ rest, (name ++ "=" ++ value).toList = '-' :: '-' :: rest := by
  obtain ⟨rest, long⟩ := own.long
  exact ⟨rest ++ '=' :: value.toList, by rw [toList_attached, ← long]; rfl⟩

theorem splitAtEquals_attached (own : IsOwn command spec name) (value : String) :
    splitAtEquals (name ++ "=" ++ value).toList = (name.toList, some value.toList) := by
  rw [toList_attached, splitAtEquals_append own.whole]

/-- A text without `=` is no name with a value. -/
theorem attached_ne {other : String} (whole : '=' ∉ other.toList) :
    name ++ "=" ++ value ≠ other := by
  rintro rfl
  exact whole (by simp)

theorem passes_attached (own : IsOwn command spec name) (value : String) :
    ∃ word, Word.ofText (namesOf generalOptions) (name ++ "=" ++ value) = .ok word := by
  obtain ⟨rest, first⟩ := own.exists_toList_attached value
  exact exists_ofText first (congrArg Prod.fst (own.splitAtEquals_attached value)) own.foreign

theorem ofText_attached (own : IsOwn command spec name) (value : String) :
    Word.ofText (namesOf command.options) (name ++ "=" ++ value) =
      .ok (.option spec name (some ⟨true, value.toList⟩)) := by
  obtain ⟨rest, first⟩ := own.exists_toList_attached value
  -- The word as a whole is no name of an option.
  have unnamed : (namesOf command.options).lookup (name ++ "=" ++ value) = none :=
    List.lookup_eq_none_iff.mpr fun entry member =>
      bne_iff_ne.mpr (attached_ne (whole_of_mem_namesOf entry member))
  unfold Word.ofText
  rw [unnamed, own.splitAtEquals_attached, first]
  simp only [String.ofList_toList, own.found]

end IsOwn

/-- An option without values. -/
theorem means_alone (own : IsOwn command spec name) (takes : spec.takes = .nothing setting)
    (goesOn : haltAt (some command) [setting] = .ok ()) : Means command [name] [setting] := by
  refine means_option own.named own.passes own.ofText nofun (fun words _ => ?_) goesOn
  simp [settingsAt, settingBefore, takes]

/-- An option with one value behind `=`, which may be any text. -/
theorem means_attached {read : String → Except String Setting} (own : IsOwn command spec name)
    (takes : spec.takes = .one read) (accepted : read value = .ok setting)
    (goesOn : haltAt (some command) [setting] = .ok ()) :
    Means command [name ++ "=" ++ value] [setting] := by
  refine means_option (IsOwn.attached_ne (by decide)) (own.passes_attached value)
    (own.ofText_attached value) nofun (fun words _ => ?_) goesOn
  rw [settingsAt]
  unfold openWord
  simp [takes, settingOf, accepted]

/-- An option with plain values behind it. -/
theorem means_behind {values : List String} (own : IsOwn command spec name)
    (plain : ∀ value ∈ values, IsPlain value)
    (taken : ∀ words, plainTexts words = [] →
      settingBefore spec (values.map .plain ++ words) = .ok (setting, values.length))
    (goesOn : haltAt (some command) [setting] = .ok ()) :
    Means command (name :: values) [setting] := by
  refine means_option own.named own.passes own.ofText plain (fun words none' => ?_) goesOn
  rw [settingsAt, taken words none']
  rfl

/-- An option with one plain value behind it. -/
theorem means_value {read : String → Except String Setting} (own : IsOwn command spec name)
    (takes : spec.takes = .one read) (plain : IsPlain value) (accepted : read value = .ok setting)
    (goesOn : haltAt (some command) [setting] = .ok ()) :
    Means command [name, value] [setting] := by
  refine means_behind own (List.forall_mem_singleton.mpr plain) (fun words _ => ?_) goesOn
  have valued : settingOf spec value = .ok setting := by simp only [settingOf, takes, accepted]
  rw [settingBefore, takes, plainTexts_append]
  simp only [List.singleton_append, valued]
  rfl

/-! ### Options of fields -/

section Fields

variable {field : Scalar} {words : ListField}

theorem isOwn_spec (configured : command ≠ .shapes) (field : Field) :
    IsOwn command field.spec field.option := by
  have long : ∀ field ∈ Field.all, ['-', '-'] <+: field.option.toList := by decide +kernel
  have named : ∀ field ∈ Field.all, field.option ≠ "--" := by decide +kernel
  have whole : ∀ field ∈ Field.all, '=' ∉ field.option.toList := by decide +kernel
  have foreign : ∀ field ∈ Field.all, ∀ entry ∈ namesOf generalOptions,
      ¬ field.option.toList.isPrefixOf entry.1.toList := by decide +kernel
  have among := field.mem_all
  refine ⟨long field among, named field among, whole field among, ?_, foreign field among⟩
  -- Each command but the one for shapes has the options of all fields.
  cases command with
  | shapes => exact absurd rfl configured
  | _ =>
    rcases field with field | field
    all_goals cases field <;> rfl

theorem means_switch (configured : command ≠ .shapes) (kind : field.kind = .switch) :
    Means command [Field.option (.scalar field)] [.switch field] := by
  have takes : (Field.scalar field).takes = switchTo (.switch field) := by
    simp only [Field.takes, kind]
  exact means_alone (isOwn_spec configured _) takes rfl

/-- A text may be empty, begin with a hyphen or have `=` in it. -/
theorem means_text (configured : command ≠ .shapes) (kind : field.kind = .text) (text : String) :
    Means command [Field.option (.scalar field) ++ "=" ++ text] [.textField field text] := by
  have takes : (Field.scalar field).takes = textValue (.textField field) := by
    simp only [Field.takes, kind]
  exact means_attached (isOwn_spec configured _) takes rfl rfl

theorem means_number (configured : command ≠ .shapes) (kind : field.kind = .number) {n : Int}
    (reads : Numeral.readInt? value.toList = some n) :
    Means command [Field.option (.scalar field) ++ "=" ++ value] [.numberField field n] := by
  have takes : (Field.scalar field).takes = numberValue (.numberField field) := by
    simp only [Field.takes, kind]
  exact means_attached (isOwn_spec configured _) takes (by simp only [reads]) rfl

theorem means_shape (configured : command ≠ .shapes) (shape : Shape) :
    Means command ["--shape", shape.name] [.shape shape] := by
  have chosen : (Shape.all.map fun shape => (shape.name, shape)).lookup shape.name = some shape := by
    cases shape <;> rfl
  have plain : IsPlain shape.name := by cases shape <;> decide
  exact means_value (isOwn_spec configured (.scalar (.shape shape))) rfl plain (by simp only [chosen])
    rfl

theorem means_word (configured : command ≠ .shapes) (collected : words.isCollected = true)
    (text : String) :
    Means command [Field.option (.list words) ++ "=" ++ text] [.word words text] := by
  have takes : (Field.list words).takes = textValue (.word words) := by
    simp only [Field.takes, collected, if_true]
  exact means_attached (isOwn_spec configured _) takes rfl rfl

/-- Words that are given all at once are plain. -/
theorem means_words (configured : command ≠ .shapes) (whole : words.isCollected = false)
    {text : String} {texts : List String} (plain : ∀ text' ∈ text :: texts, IsPlain text') :
    Means command (Field.option (.list words) :: text :: texts) [.words words (text :: texts)] := by
  have takes : (Field.list words).spec.takes = wordList (.words words) := by
    simp [Field.spec, Field.takes, whole]
  refine means_behind (isOwn_spec configured _) plain (fun rest none' => ?_) rfl
  rw [settingBefore, takes, plainTexts_append, none']
  simp [wordList]

end Fields

end Parts

end Patternwright.CommandLine
