import Mathlib
import Patternwright.Proofs.CommandLine.Failure
import Patternwright.Proofs.CommandLine.LoadedDocument
import Patternwright.Proofs.Pipeline.Draft

/-!
# Reported errors

A command that has no matcher to work with should say so in a line and return. It does so for nearly
everything that can be wrong with its options and its document: the document itself, its keys, the
kinds of its values wherever one is put into a pattern, the entries of a card filter, bounds that
have too many digits to be written, and the form of the pattern.

Two errors slip through and end the program. A format that is no text fails where its tokens are
replaced, and a number that is too large for a pattern fails while the pattern is read, but not as a
fault of its form.

No more is said here about what lies beyond the readers themselves: brackets that are nested as
deeply as the stack of the interpreter allows, halves of surrogate pairs, and names of characters
that are not in the table of names.

## Main definitions

* `IsReporting` — all that can go wrong in a step is reported
* `Config.HasForeignFormat`, `Config.Overflows` — what slips through
* `CommandLine.Escapes` — one of these happens to the configuration of a command
* `CommandLine.Follows` — the readers can follow a command up to its error

## Main results

* `Pipeline.isReported_of_build` — what goes wrong in building a pattern, and when it is not reported
* `CommandLine.run_of_unusable` — how a command without a matcher ends
-/

namespace Patternwright

/-! ### Steps whose errors are all reported -/

/-- Whatever goes wrong in a step is reported. -/
def IsReporting {α : Type} (step : Except Error α) : Prop :=
  ∀ error, step = .error error → error.isReported = true

section Steps

variable {α β : Type}

theorem isReporting_ok (a : α) : IsReporting (.ok a) := nofun

theorem isReporting_error {error : Error} (reported : error.isReported = true) :
    IsReporting (.error error : Except Error α) := by
  rintro _ ⟨⟩
  exact reported

theorem IsReporting.bind {step : Except Error α} {next : α → Except Error β}
    (first : IsReporting step) (second : ∀ a, IsReporting (next a)) :
    IsReporting (step >>= next) := by
  intro error failed
  rcases bind_eq_error_iff.mp failed with failed | ⟨a, _, failed⟩
  · exact first error failed
  · exact second a error failed

theorem isReporting_mapM {step : α → Except Error β} (each : ∀ a, IsReporting (step a))
    (items : List α) : IsReporting (items.mapM step) := by
  induction items with
  | nil => exact isReporting_ok []
  | cons a items ih =>
    rw [List.mapM_cons]
    exact (each a).bind fun b => ih.bind fun bs => isReporting_ok (b :: bs)

end Steps

/-! ### Configurations -/

theorem Value.isReporting_elements (v : Value) : IsReporting v.elements := by
  cases v with
  | list items => exact isReporting_ok items
  | object members => exact isReporting_ok _
  | text s => exact isReporting_ok _
  | _ => exact isReporting_error rfl

theorem ListField.isReporting_items (field : ListField) (v : Value) :
    IsReporting (field.items v) := by
  unfold items
  split
  · exact isReporting_error rfl
  · exact v.isReporting_elements

namespace Config

theorem isReporting_overlayLists (config : Config) (changes : List Change)
    (fields : List ListField) : IsReporting (config.overlayLists changes fields) := by
  induction fields generalizing config with
  | nil => exact isReporting_ok config
  | cons field fields ih =>
    rw [overlayLists]
    split
    · exact ih config
    · exact (field.isReporting_items _).bind fun items => ih _

theorem isReporting_overlay (config : Config) (changes : List Change) :
    IsReporting (config.overlay changes) := isReporting_overlayLists _ changes ListField.all

/-- A document of the wrong kind, an unknown key and a list field without a list are reported. -/
theorem isReporting_ofDocument (document : Value) : IsReporting (ofDocument document) := by
  unfold ofDocument
  split
  · refine (isReporting_mapM (fun member => ?_) _).bind fun changes => isReporting_overlay _ changes
    dsimp only
    split
    · exact isReporting_ok _
    · exact isReporting_error rfl
  · exact isReporting_error rfl

/-- The shape of a configuration is a date or time whose format is neither missing nor a text. -/
def HasForeignFormat (config : Config) : Prop :=
  Shape.select? config = some .date ∧ ¬ IsText (config.scalar .dateFormat) ∨
    Shape.select? config = some .time ∧ ¬ IsText (config.scalar .timeFormat)

/-- The pattern of a configuration has a number in it that is too large. -/
def Overflows (config : Config) : Prop :=
  ∃ shape? text fault, Pipeline.build config = .ok (shape?, text) ∧
    Regex.Pattern.compile text (MatchOptions.ofConfig config).toOptions = .error fault ∧
    fault.cause.isOverflow = true

end Config

/-! ### Building a pattern -/

namespace Pipeline

theorem isReporting_literal (v : Value) : IsReporting (literal v) := by
  cases v with
  | text s => exact isReporting_ok _
  | _ => exact isReporting_error rfl

theorem isReporting_alternation (words : List Value) : IsReporting (alternation words) :=
  (isReporting_mapM isReporting_literal words).bind fun _ => isReporting_ok _

theorem isReporting_appendTo (head : String) (v : Value) : IsReporting (appendTo head v) := by
  cases v with
  | text s => exact isReporting_ok _
  | _ => exact isReporting_error rfl

theorem isReporting_withTail (tail : String) (v : Value) : IsReporting (withTail tail v) := by
  cases v with
  | text s => exact isReporting_ok _
  | _ => exact isReporting_error rfl

/-- A value with too many digits is reported. -/
theorem isReporting_display (v : Value) : IsReporting (display v) := by
  rw [display]
  split
  · exact isReporting_ok _
  · exact isReporting_error rfl

theorem isReporting_boundText (absent : String) (v : Value) :
    IsReporting (boundText absent v) := by
  cases v with
  | null => exact isReporting_ok absent
  | _ => exact isReporting_display _

theorem isReporting_countRange (low high : Value) : IsReporting (countRange low high) :=
  (isReporting_boundText "0" low).bind fun _ => (isReporting_boundText "" high).bind fun _ =>
    isReporting_ok _

theorem isReporting_repetitions (config : Config) (pattern : Value) :
    IsReporting (repetitions config pattern) := by
  unfold repetitions
  split
  · exact isReporting_ok pattern
  · exact (isReporting_display pattern).bind fun _ => (isReporting_countRange _ _).bind fun _ =>
      isReporting_ok _
  · exact (isReporting_display pattern).bind fun _ => (isReporting_display _).bind fun _ =>
      isReporting_ok _

theorem isReporting_lengthBounds (config : Config) (pattern : Value) :
    IsReporting (lengthBounds config pattern) := by
  unfold lengthBounds
  split
  · exact isReporting_ok pattern
  · exact (isReporting_countRange _ _).bind fun _ => isReporting_ok _

theorem isReporting_lookarounds (config : Config) (pattern : Value) :
    IsReporting (lookarounds config pattern) := by
  have lookahead (mark : String) (word : Value) : IsReporting (lookahead mark word) :=
    (isReporting_literal word).bind fun _ => isReporting_ok _
  exact (isReporting_mapM (lookahead "?=") _).bind fun _ =>
    (isReporting_mapM (lookahead "?!") _).bind fun _ => isReporting_appendTo _ _

theorem isReporting_opening (config : Config) (pattern : Value) :
    IsReporting (opening config pattern) := by
  unfold opening
  split
  · exact isReporting_ok pattern
  · exact (isReporting_literal _).bind fun _ =>
      (isReporting_appendTo _ pattern).bind fun _ => isReporting_ok _

theorem isReporting_closing (config : Config) (pattern : Value) :
    IsReporting (closing config pattern) := by
  unfold closing
  split
  · exact isReporting_ok pattern
  · exact (isReporting_literal _).bind fun _ =>
      (isReporting_withTail _ pattern).bind fun _ => isReporting_ok _

theorem isReporting_allowedWords (config : Config) (pattern : Value) :
    IsReporting (allowedWords config pattern) := by
  unfold allowedWords
  split
  · exact isReporting_ok pattern
  · exact (isReporting_alternation _).bind fun _ => isReporting_ok _

theorem isReporting_disallowedWords (config : Config) (pattern : Value) :
    IsReporting (disallowedWords config pattern) := by
  unfold disallowedWords
  split
  · exact isReporting_ok pattern
  · exact (isReporting_alternation _).bind fun _ => (isReporting_display pattern).bind fun _ =>
      isReporting_ok _

/-- What goes wrong in a stage is reported, whatever the kinds of the values. -/
theorem isReporting_stage (stage : Stage) (config : Config) (pattern : Value) :
    IsReporting (stage.run config pattern) := by
  cases stage with
  | lookarounds => exact (isReporting_lookarounds config pattern).bind fun _ => isReporting_ok _
  | repetitions => exact isReporting_repetitions config pattern
  | lengthBounds => exact isReporting_lengthBounds config pattern
  | ends => exact (isReporting_opening config pattern).bind fun _ => isReporting_closing config _
  | words =>
    exact (isReporting_allowedWords config pattern).bind fun _ =>
      isReporting_disallowedWords config _
  | _ => exact isReporting_ok _

theorem isReporting_runStages (config : Config) (stages : List Stage) (pattern : Value) :
    IsReporting (runStages config stages pattern) := by
  induction stages generalizing pattern with
  | nil => exact isReporting_ok pattern
  | cons stage stages ih => exact (isReporting_stage stage config pattern).bind ih

theorem isReporting_filterPattern (filter : Value) :
    IsReporting (CardBrand.filterPattern filter) := by
  have brand (entry : Value) : IsReporting (CardBrand.ofValue? entry) := by
    unfold CardBrand.ofValue?
    split
    · exact isReporting_ok _
    · exact isReporting_error rfl
    · exact isReporting_error rfl
    · exact isReporting_ok none
  unfold CardBrand.filterPattern
  split
  · exact filter.isReporting_elements.bind fun entries =>
      ((isReporting_mapM brand entries).bind fun _ => isReporting_ok _).bind fun _ =>
        isReporting_ok _
  · exact isReporting_ok _

/-- A format fails if and only if it is neither missing nor a text, and this is not reported. -/
theorem isReported_of_formatPattern {tokens : List Format.Token} {default : String} {format : Value}
    {error : Error}
    (failed : Shape.formatPattern (Format.fragment tokens default) format = .error error) :
    error.isReported = false ∧ ¬ Config.IsText format := by
  cases format with
  | null => cases failed
  | text s => cases failed
  | _ =>
    obtain rfl : _ = error := Except.error.inj failed
    exact ⟨rfl, by rintro (missing | ⟨s, text⟩) <;> contradiction⟩

theorem isText_of_formatPattern {tokens : List Format.Token} {default pattern : String}
    {format : Value}
    (drawn : Shape.formatPattern (Format.fragment tokens default) format = .ok pattern) :
    Config.IsText format := by
  cases format with
  | null => exact .inl rfl
  | text s => exact .inr ⟨s, rfl⟩
  | _ => cases drawn

/-- What goes wrong in building a pattern is reported, unless it is a format that is no text. -/
theorem isReported_of_build {config : Config} {error : Error}
    (failed : build config = .error error) :
    error.isReported = false ↔ config.HasForeignFormat := by
  -- All shapes but two, and the stages, have no format and fail only with what is reported.
  have reported (sound : error.isReported = true) (native : ¬ config.HasForeignFormat) :
      error.isReported = false ↔ config.HasForeignFormat := by simp [sound, native]
  unfold build at failed
  cases selected : Shape.select? config with
  | none =>
    rw [selected] at failed
    refine reported ?_ (by simp [Config.HasForeignFormat, selected])
    exact ((isReporting_runStages config Stage.all (.text "")).bind fun pattern =>
      (isReporting_appendTo "^" pattern).bind fun _ => isReporting_ok _) error failed
  | some shape =>
    rw [selected] at failed
    obtain failed : shape.pattern config = .error error := by
      rcases bind_eq_error_iff.mp failed with failed | ⟨_, _, failed⟩
      · exact failed
      · cases failed
    cases shape with
    | date =>
      obtain ⟨silent, foreign⟩ := isReported_of_formatPattern failed
      exact iff_of_true silent (.inl ⟨selected, foreign⟩)
    | time =>
      obtain ⟨silent, foreign⟩ := isReported_of_formatPattern failed
      exact iff_of_true silent (.inr ⟨selected, foreign⟩)
    | creditCard =>
      refine reported ?_ (by simp [Config.HasForeignFormat, selected])
      exact isReporting_filterPattern _ error failed
    | _ => cases failed

/-- A configuration without a matcher has an error that is reported, or a format that is no text, or
a number that is too large. -/
theorem isReported_of_ofConfig {config : Config} {error : Error}
    (failed : Matcher.ofConfig config = .error error) :
    error.isReported = false ↔ config.HasForeignFormat ∨ config.Overflows := by
  unfold Matcher.ofConfig at failed
  rcases bind_eq_error_iff.mp failed with unbuilt | ⟨⟨shape?, text⟩, built, refused⟩
  · have native : ¬ config.Overflows := by
      rintro ⟨shape?, text, fault, built, _⟩
      cases unbuilt.symm.trans built
    simpa [native] using isReported_of_build unbuilt
  · -- The pattern has been built, so a format would have been a text.
    dsimp only at refused
    split at refused
    · cases refused
    next fault compiled =>
    obtain rfl := Except.error.inj refused
    have native : ¬ config.HasForeignFormat := by
      intro foreign
      unfold build at built
      rcases foreign with ⟨selected, foreign⟩ | ⟨selected, foreign⟩
      all_goals
        rw [selected] at built
        obtain ⟨pattern, drawn, _⟩ := bind_eq_ok_iff.mp built
        exact foreign (isText_of_formatPattern drawn)
    have same : config.Overflows ↔ fault.cause.isOverflow = true := by
      constructor
      · rintro ⟨_, _, _, again, refused, overflow⟩
        obtain ⟨rfl, rfl⟩ := Prod.mk.inj (Except.ok.inj (built.symm.trans again))
        obtain rfl := Except.error.inj (compiled.symm.trans refused)
        exact overflow
      · exact fun overflow => ⟨shape?, text, fault, built, compiled, overflow⟩
    simp [native, same, Error.isReported]

end Pipeline

/-! ### Commands -/

namespace CommandLine

variable {world : World} {settings : List Setting}

/-- How many brackets can be opened in a text whatever the nesting: each takes a few calls of the
thousand that the stack of the interpreter has room for. -/
def nestingLimit : Nat := 100

/-- The text opens no more brackets than can be followed. -/
def IsShallow (brackets text : List Char) : Prop :=
  text.countP (brackets.contains ·) ≤ nestingLimit

instance (brackets text : List Char) : Decidable (IsShallow brackets text) :=
  inferInstanceAs (Decidable (_ ≤ _))

/-- A command can read the document that its settings name, and follow the nesting in it. -/
def CanRead (world : World) (settings : List Setting) : Prop :=
  ∀ path, documentOf? settings = some path →
    ∃ text, world.textAt path = .ok text ∧ IsShallow ['[', '\x7b'] text

/-- The readers can follow a command up to its error: its document and its pattern are not nested too
deeply, the document spells no half of a surrogate pair, and the pattern gives no name to a character
that is not in the table of names. -/
structure Follows (world : World) (settings : List Setting) (error : Error) : Prop where
  readable : CanRead world settings
  shallow : ∀ config shape? pattern, configOf world settings = .ok config →
    Pipeline.build config = .ok (shape?, pattern) → IsShallow ['('] pattern.toList
  whole : ∀ text left, error ≠ .document text ⟨.loneHalf, left⟩
  named : ∀ text name left?, error ≠ .pattern text ⟨.unknownCharacterName name, left?⟩

/-- The configuration of a command has a format that is no text, or a number that is too large. -/
def Escapes (world : World) (settings : List Setting) : Prop :=
  ∃ config, configOf world settings = .ok config ∧ (config.HasForeignFormat ∨ config.Overflows)

/-- Settings without a document have nothing to read. -/
theorem canRead_of_none (unnamed : documentOf? settings = none) : CanRead world settings := by
  intro path named
  rw [unnamed] at named
  cases named

/-- What is wrong with the text of a document is reported. -/
theorem isReporting_parsed (text : List Char) :
    IsReporting (match Json.read text with
      | .ok value => Config.ofDocument value
      | .error fault => .error (.document (String.ofList text) fault)) := by
  split
  · exact Config.isReporting_ofDocument _
  · exact isReporting_error rfl

/-- What is wrong with a document that can be read, and with what is laid over it, is reported. -/
theorem isReporting_configOf (readable : CanRead world settings) :
    IsReporting (configOf world settings) := by
  unfold configOf
  split
  · next path named =>
    refine IsReporting.bind ?_ fun config => config.isReporting_overlay _
    obtain ⟨text, found, -⟩ := readable path named
    rw [World.document_eq found]
    exact isReporting_parsed text
  · exact Config.isReporting_overlay _ _

/-- Without a configuration or without its matcher, the first two actions of a command break off. -/
theorem bind_of_unusable {error : Error}
    (unusable : configOf world settings >>= Matcher.ofConfig = .error error)
    (next : Config → Matcher → Action Nat) :
    ∃ left, (Action.configure settings >>= fun config => Action.compile config >>= next config)
      (.start world) = .error error left := by
  rcases bind_eq_error_iff.mp unusable with failed | ⟨config, configured, failed⟩
  · exact ⟨_, Action.bind_of_error (Action.configure_of_error (.start world) failed)⟩
  · exact ⟨_, (Action.bind_of_ok (Action.configure_of_ok (.start world) configured)).trans
      (Action.bind_of_error (Action.compile_of_error _ failed))⟩

/-- Every command but that for the shapes begins with the matcher of its configuration. -/
theorem execute_of_unusable {request : Request} {error : Error}
    (compiles : request.command ≠ .shapes)
    (unusable : configOf world request.settings >>= Matcher.ofConfig = .error error) :
    ∃ left, execute request (.start world) = .error error left ∧ left.Shows world "" := by
  obtain ⟨left, executed⟩ : ∃ left, execute request (.start world) = .error error left := by
    obtain ⟨isVerbose, command, settings⟩ := request
    cases command with
    | shapes => exact absurd rfl compiles
    | _ => exact bind_of_unusable unusable _
  exact ⟨left, executed, failsSilently_execute request _ error left executed⟩

/-- The error of a command without a matcher is reported, unless it escapes. -/
theorem isReported_of_unusable {error : Error} (readable : CanRead world settings)
    (unusable : configOf world settings >>= Matcher.ofConfig = .error error) :
    error.isReported = false ↔ Escapes world settings := by
  rcases bind_eq_error_iff.mp unusable with failed | ⟨config, configured, failed⟩
  · have reported := isReporting_configOf readable error failed
    have none' : ¬ Escapes world settings := by
      rintro ⟨config, configured, _⟩
      cases failed.symm.trans configured
    simp [reported, none']
  · rw [Pipeline.isReported_of_ofConfig failed]
    constructor
    · exact fun slips => ⟨config, configured, slips⟩
    · rintro ⟨other, again, slips⟩
      obtain rfl := Except.ok.inj (configured.symm.trans again)
      exact slips

/-- A command whose options and document make no matcher reports why in a line and returns one; this
is all that it writes, besides the journal of a verbose run. Only a format that is no text and a
number that is too large end the program instead. -/
theorem run_of_unusable {line : List String} {request : Request} {error : Error}
    (parsed : parse line = .ok request) (compiles : request.command ≠ .shapes)
    (unusable : configOf world request.settings >>= Matcher.ofConfig = .error error)
    (follows : Follows world request.settings error) :
    (¬ Escapes world request.settings →
      ∃ before, run world line = ⟨.returned 1, "", before ++ errorLine error, world.files⟩ ∧
        (request.isVerbose = false → before = "")) ∧
      (Escapes world request.settings →
        ∃ errors, run world line = ⟨.failed error, "", errors, world.files⟩) := by
  obtain ⟨left, executed, rfl, output⟩ := execute_of_unusable compiles unusable
  have escapes := isReported_of_unusable follows.readable unusable
  rw [run, parsed]
  dsimp only
  rw [answer, executed]
  dsimp only
  constructor
  · intro kept
    rw [if_pos (by simpa using mt escapes.mp kept), Effects.report, output]
    exact ⟨_, rfl, fun quiet => by rw [quiet]; rfl⟩
  · intro escaped
    rw [if_neg (by simp [escapes.mpr escaped]), Effects.report, output]
    exact ⟨_, rfl⟩

/-- The command to build with a length that no pattern can bound. -/
theorem parse_maxLength :
    parse ["build", "--max-length", "4294967295"] =
      .ok ⟨false, .build, [.numberField .maxLength 4294967295]⟩ := by
  have own : IsOwn .build (Field.scalar .maxLength).spec "--max-length" := isOwn_spec (by decide) _
  have reads : Numeral.readInt? "4294967295".toList = some 4294967295 := by decide +kernel
  exact parse_of_means (means_value own rfl (by decide) (by simp only [reads]) rfl)

theorem unusable_custom :
    configOf ⟨[], ""⟩ [.textField .custom "(", .out "c"] >>= Matcher.ofConfig =
      .error (.pattern "^($" ⟨.unterminatedGroup, some 2⟩) := by
  cbv

theorem unusable_maxLength :
    configOf ⟨[], ""⟩ [.numberField .maxLength 4294967295] >>= Matcher.ofConfig =
      .error (.pattern "^^.{0,4294967295}$$" ⟨.countTooLarge, none⟩) := by
  cbv

/-- Without a document, only the pattern has to be shallow. -/
theorem follows_of_none {config : Config} {shape? : Option Shape} {text : String}
    {fault : Regex.Fault} (unnamed : documentOf? settings = none)
    (configured : configOf world settings = .ok config)
    (built : Pipeline.build config = .ok (shape?, text)) (shallow : IsShallow ['('] text.toList)
    (named : ∀ name, fault.cause ≠ .unknownCharacterName name) :
    Follows world settings (.pattern text fault) where
  readable := canRead_of_none unnamed
  shallow other shape? pattern again drawn := by
    obtain rfl := Except.ok.inj (configured.symm.trans again)
    obtain ⟨-, rfl⟩ := Prod.mk.inj (Except.ok.inj (built.symm.trans drawn))
    exact shallow
  whole := by simp
  named := by
    rintro _ name left? same
    obtain ⟨-, rfl⟩ := Error.pattern.inj same
    exact named name rfl

theorem follows_custom :
    Follows ⟨[], ""⟩ [.textField .custom "(", .out "c"]
      (.pattern "^($" ⟨.unterminatedGroup, some 2⟩) :=
  follows_of_none rfl rfl rfl (by decide +kernel) (by simp)

theorem follows_maxLength :
    Follows ⟨[], ""⟩ [.numberField .maxLength 4294967295]
      (.pattern "^^.{0,4294967295}$$" ⟨.countTooLarge, none⟩) := by
  have built : Pipeline.build
      (Config.default.overlayScalars [(.scalar .maxLength, .int 4294967295)]) =
        .ok (none, "^^.{0,4294967295}$$") := by
    cbv
  exact follows_of_none rfl rfl built (by decide +kernel) (by simp)

/-- A pattern that does not close its group is reported, and a length that is too large is not. -/
theorem run_of_unusable_sample :
    (Follows ⟨[], ""⟩ [.textField .custom "(", .out "c"]
        (.pattern "^($" ⟨.unterminatedGroup, some 2⟩) ∧
      run ⟨[], ""⟩ ["build", "--custom", "(", "--out=c"] = ⟨.returned 1, "",
        "error: Error generating regular expression: " ++
          "missing ), unterminated subpattern at position 1\n", []⟩) ∧
    (Follows ⟨[], ""⟩ [.numberField .maxLength 4294967295]
        (.pattern "^^.{0,4294967295}$$" ⟨.countTooLarge, none⟩) ∧
      ∃ errors, run ⟨[], ""⟩ ["build", "--max-length", "4294967295"] =
        ⟨.failed (.pattern "^^.{0,4294967295}$$" ⟨.countTooLarge, none⟩), "", errors, []⟩) := by
  have kept : ¬ Escapes ⟨[], ""⟩ [.textField .custom "(", .out "c"] := fun escaped =>
    absurd ((isReported_of_unusable follows_custom.readable unusable_custom).mpr escaped) (by decide)
  have escaped : Escapes ⟨[], ""⟩ [.numberField .maxLength 4294967295] :=
    (isReported_of_unusable follows_maxLength.readable unusable_maxLength).mp rfl
  obtain ⟨before, ran, quiet⟩ :=
    (run_of_unusable parse_custom (by decide) unusable_custom follows_custom).1 kept
  refine ⟨⟨follows_custom, ran.trans ?_⟩, follows_maxLength,
    (run_of_unusable parse_maxLength (by decide) unusable_maxLength follows_maxLength).2 escaped⟩
  rw [quiet rfl]
  congr 1

/-- Not every command without a matcher reports why. -/
theorem not_reports_unusable :
    ¬ ∀ (world : World) (line : List String) (request : Request) (error : Error),
      parse line = .ok request → request.command ≠ .shapes →
        configOf world request.settings >>= Matcher.ofConfig = .error error →
          Follows world request.settings error → (run world line).ending = .returned 1 := by
  intro reports
  have compiles : (⟨false, .build, [.numberField .maxLength 4294967295]⟩ : Request).command ≠
      .shapes := by decide
  have ending := reports ⟨[], ""⟩ _ _ _ parse_maxLength compiles unusable_maxLength
    follows_maxLength
  obtain ⟨left, executed, -⟩ := execute_of_unusable compiles unusable_maxLength
  rw [run, parse_maxLength] at ending
  simp only [answer, executed] at ending
  cases ending

end CommandLine

end Patternwright
