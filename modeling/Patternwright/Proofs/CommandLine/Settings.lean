import Patternwright.CommandLine.Parse
import Patternwright.Proofs.Result

/-!
# The settings of a command line

Whatever a command line looks like, its settings are made by options of its command. This is not
quite the same as "by the options whose names are on it", since a name may be shortened, and the
letters of several options may stand in one word. But each word is recognised as an option of the
command first, and from there on an option makes settings from a value of its own kind.

## Main definitions

* `Takes.Makes` — the settings that an option can make
* `IsMade` — a setting that one of some named options can make

## Main results

* `isNamed_of_recognise` — words are recognised as named options
* `isMade_of_collect` — their settings are made by named options
* `makes_of_parse` — so are the settings of a command line, by options of its command
-/

namespace Patternwright

namespace CommandLine

/-- A setting that an option can make. -/
inductive Takes.Makes : Takes → Setting → Prop
  | nothing (setting : Setting) : Makes (.nothing setting) setting
  | one {read : String → Except String Setting} {text : String} {setting : Setting}
    (accepted : read text = .ok setting) : Makes (.one read) setting
  | several (setting : List String → Setting) (text : String) (texts : List String) :
    Makes (.several setting) (setting (text :: texts))

variable {names : Names} {spec : OptionSpec} {setting : Setting} {words : List Word}

/-- An option has one of some names. -/
def IsNamed (names : Names) (spec : OptionSpec) : Prop := ∃ name, (name, spec) ∈ names

/-- A setting is made by an option that has one of some names. -/
def IsMade (names : Names) (setting : Setting) : Prop :=
  ∃ spec, IsNamed names spec ∧ spec.takes.Makes setting

theorem mem_of_isNamed {specs : List OptionSpec} (named : IsNamed (namesOf specs) spec) :
    spec ∈ specs := by
  obtain ⟨name, member⟩ := named
  obtain ⟨other, among, member⟩ := List.mem_flatMap.mp member
  obtain ⟨_, _, same⟩ := List.mem_map.mp member
  obtain ⟨_, rfl⟩ := Prod.mk.inj same
  exact among

theorem isNamed_of_lookup {name : String} (found : names.lookup name = some spec) :
    IsNamed names spec := by
  obtain ⟨before, behind, rfl, _⟩ := List.lookup_eq_some_iff.mp found
  exact ⟨name, by simp⟩

/-! ### Words -/

theorem isNamed_of_mem_readings {text : List Char} {name : String} {attached? : Option Attached}
    (member : (name, spec, attached?) ∈ readings names text) : IsNamed names spec := by
  unfold readings at member
  split at member
  · obtain ⟨entry, among, same⟩ := List.mem_map.mp member
    obtain ⟨rfl, rfl, _⟩ : entry.1 = name ∧ entry.2 = spec ∧ _ := by simpa using same
    exact ⟨entry.1, (List.mem_filter.mp among).1⟩
  · obtain ⟨entry, among, same⟩ := List.mem_filterMap.mp member
    dsimp only at same
    split at same
    · obtain ⟨_, rfl, _⟩ : entry.1 = name ∧ entry.2 = spec ∧ _ := by simpa using same
      exact ⟨entry.1, among⟩
    split at same
    · obtain ⟨_, rfl, _⟩ : entry.1 = name ∧ entry.2 = spec ∧ _ := by simpa using same
      exact ⟨entry.1, among⟩
    · cases same
  · cases member

theorem isNamed_of_ofOtherText {text name : String} {attached? : Option Attached}
    (recognised : Word.ofOtherText names text = .ok (.option spec name attached?)) :
    IsNamed names spec := by
  unfold Word.ofOtherText at recognised
  split at recognised
  · next other name' attached' read =>
    have member : (other, name', attached') ∈ readings names text.toList := by simp [read]
    obtain ⟨rfl, _, _⟩ : name' = spec ∧ _ := by simpa using recognised
    exact isNamed_of_mem_readings member
  · cases recognised
  · split at recognised <;> cases recognised

/-- A word is only recognised as an option that has a name. -/
theorem isNamed_of_ofText {text name : String} {attached? : Option Attached}
    (recognised : Word.ofText names text = .ok (.option spec name attached?)) :
    IsNamed names spec := by
  unfold Word.ofText at recognised
  split at recognised
  · split at recognised
    · next other found =>
      obtain ⟨rfl, _, _⟩ : other = spec ∧ _ := by simpa using recognised
      exact isNamed_of_lookup found
    split at recognised
    · exact isNamed_of_ofOtherText recognised
    split at recognised
    · next other found =>
      obtain ⟨rfl, _, _⟩ : other = spec ∧ _ := by simpa using recognised
      exact isNamed_of_lookup found
    · exact isNamed_of_ofOtherText recognised
  · cases recognised

theorem isNamed_of_recognise {texts : List String} (recognised : recognise names texts = .ok words)
    {name : String} {attached? : Option Attached} (member : .option spec name attached? ∈ words) :
    IsNamed names spec := by
  induction texts using recognise.induct generalizing words with
  | case1 =>
    obtain rfl : [] = words := Except.ok.inj recognised
    cases member
  | case2 texts =>
    -- Everything behind the separator is plain.
    obtain rfl : .separator :: texts.map .plain = words := Except.ok.inj recognised
    simp at member
  | case3 text texts other ih =>
    rw [recognise.eq_3 _ _ _ other, bind_eq_ok_iff] at recognised
    obtain ⟨word, here, recognised⟩ := recognised
    obtain ⟨later, behind, recognised⟩ := bind_eq_ok_iff.mp recognised
    obtain rfl : word :: later = words := Except.ok.inj recognised
    rcases List.mem_cons.mp member with rfl | member
    · exact isNamed_of_ofText here
    · exact ih behind member

/-! ### Settings -/

theorem makes_of_settingOf {value : String} (made : settingOf spec value = .ok setting) :
    spec.takes.Makes setting := by
  unfold settingOf at made
  split at made
  · next found takes =>
    obtain rfl := Except.ok.inj made
    exact takes ▸ .nothing found
  · next read takes =>
    split at made
    · next found accepted =>
      obtain rfl := Except.ok.inj made
      exact takes ▸ .one accepted
    · cases made
  · next found takes =>
    obtain rfl := Except.ok.inj made
    exact takes ▸ .several found value []

theorem makes_of_settingBefore {count : Nat}
    (made : settingBefore spec words = .ok (setting, count)) : spec.takes.Makes setting := by
  unfold settingBefore at made
  split at made
  · next found takes =>
    obtain ⟨rfl, _⟩ := Prod.mk.inj (Except.ok.inj made)
    exact takes ▸ .nothing found
  · obtain ⟨found, valued, made⟩ := bind_eq_ok_iff.mp made
    obtain ⟨rfl, _⟩ := Prod.mk.inj (Except.ok.inj made)
    exact makes_of_settingOf valued
  · cases made
  · next found text texts takes _ =>
    obtain ⟨rfl, _⟩ := Prod.mk.inj (Except.ok.inj made)
    exact takes ▸ .several found text texts
  · cases made

/-- The option that a word leaves open has one of some names. -/
def Rest.IsNamed (names : Names) : Rest → Prop
  | .open spec | .valued spec _ => CommandLine.IsNamed names spec
  | .stray _ => True

/-- A named option before what a part of a word amounts to. -/
theorem isNamed_of_cons {step : Except String (List OptionSpec × Rest)} {specs : List OptionSpec}
    {rest : Rest} (named : IsNamed names spec)
    (behind : ∀ {specs rest}, step = .ok (specs, rest) →
      (∀ spec ∈ specs, IsNamed names spec) ∧ rest.IsNamed names)
    (opened : (do let (specs, rest) ← step; return (spec :: specs, rest)) = .ok (specs, rest)) :
    (∀ spec ∈ specs, IsNamed names spec) ∧ rest.IsNamed names := by
  obtain ⟨⟨later, last⟩, taken, opened⟩ := bind_eq_ok_iff.mp opened
  obtain ⟨rfl, rfl⟩ := Prod.mk.inj (Except.ok.inj opened)
  obtain ⟨each, open'⟩ := behind taken
  exact ⟨List.forall_mem_cons.mpr ⟨named, each⟩, open'⟩

/-- The letters of a word are those of named options. -/
theorem isNamed_of_openWord {isShort isSetOff : Bool} {value : List Char} {specs : List OptionSpec}
    {rest : Rest} (named : IsNamed names spec)
    (opened : openWord names spec isShort isSetOff value = .ok (specs, rest)) :
    (∀ spec ∈ specs, IsNamed names spec) ∧ rest.IsNamed names := by
  induction spec, isSetOff, value using openWord.induct names isShort generalizing specs rest with
  | case1 spec isSetOff value read takes | case2 spec isSetOff value setting takes =>
    rw [openWord.eq_def, takes] at opened
    obtain ⟨rfl, rfl⟩ := Prod.mk.inj (Except.ok.inj opened)
    exact ⟨nofun, named⟩
  | case3 spec isSetOff setting takes =>
    rw [openWord, takes] at opened
    cases opened
  | case4 spec isSetOff setting takes letter more alone =>
    rw [openWord, takes] at opened
    simp only [alone, if_true] at opened
    cases opened
  | case5 spec isSetOff setting takes letter more letters unknown =>
    rw [openWord, takes] at opened
    simp only [letters, unknown] at opened
    obtain ⟨rfl, rfl⟩ := Prod.mk.inj (Except.ok.inj opened)
    exact ⟨by simpa using named, trivial⟩
  | case6 spec isSetOff setting takes letter letters next found =>
    rw [openWord, takes] at opened
    simp only [letters, found] at opened
    obtain ⟨rfl, rfl⟩ := Prod.mk.inj (Except.ok.inj opened)
    exact ⟨by simpa using named, isNamed_of_lookup found⟩
  | case7 spec isSetOff setting takes letter letters next found value ih =>
    rw [openWord, takes] at opened
    simp only [letters, found] at opened
    rw [if_neg Bool.false_ne_true] at opened
    exact isNamed_of_cons named (ih (isNamed_of_lookup found)) opened
  | case8 spec isSetOff setting takes letter letters next found c others other ih =>
    rw [openWord, takes] at opened
    simp only [letters, found] at opened
    rw [if_neg Bool.false_ne_true] at opened
    exact isNamed_of_cons named (ih (isNamed_of_lookup found)) opened

/-- The settings at the start of a line are made by named options. -/
theorem isMade_of_settingsAt {name : String} {attached? : Option Attached} {settings : List Setting}
    {strays : List String} {count : Nat} (named : IsNamed names spec)
    (made : settingsAt names spec name attached? words = .ok (settings, strays, count)) :
    ∀ setting ∈ settings, IsMade names setting := by
  have letters {specs : List OptionSpec} {settings : List Setting}
      (each : ∀ spec ∈ specs, IsNamed names spec)
      (made : specs.mapM (settingOf · "") = .ok settings) :
      ∀ setting ∈ settings, IsMade names setting := by
    intro setting member
    obtain ⟨spec, among, valued⟩ := exists_mem_of_mapM specs made setting member
    exact ⟨spec, each spec among, makes_of_settingOf valued⟩
  unfold settingsAt at made
  cases attached? with
  | none =>
    obtain ⟨⟨setting, _⟩, before, made⟩ := bind_eq_ok_iff.mp made
    obtain ⟨rfl, _⟩ := Prod.mk.inj (Except.ok.inj made)
    exact List.forall_mem_singleton.mpr ⟨spec, named, makes_of_settingBefore before⟩
  | some attached =>
    obtain ⟨⟨specs, rest⟩, opened, made⟩ := bind_eq_ok_iff.mp made
    obtain ⟨each, last⟩ := isNamed_of_openWord named opened
    dsimp only at made
    cases rest with
    | stray text =>
      obtain ⟨some', first, made⟩ := bind_eq_ok_iff.mp made
      obtain ⟨rfl, _⟩ := Prod.mk.inj (Except.ok.inj made)
      exact letters each first
    | valued spec value =>
      obtain ⟨some', first, made⟩ := bind_eq_ok_iff.mp made
      obtain ⟨setting, valued, made⟩ := bind_eq_ok_iff.mp made
      obtain ⟨rfl, _⟩ := Prod.mk.inj (Except.ok.inj made)
      exact List.forall_mem_append.mpr ⟨letters each first,
        List.forall_mem_singleton.mpr ⟨spec, last, makes_of_settingOf valued⟩⟩
    | «open» spec =>
      obtain ⟨⟨setting, _⟩, before, made⟩ := bind_eq_ok_iff.mp made
      obtain ⟨some', first, made⟩ := bind_eq_ok_iff.mp made
      obtain ⟨rfl, _⟩ := Prod.mk.inj (Except.ok.inj made)
      exact List.forall_mem_append.mpr ⟨letters each first,
        List.forall_mem_singleton.mpr ⟨spec, last, makes_of_settingBefore before⟩⟩

theorem complain_eq_ok_iff {α : Type} {command? : Option Command} {step : Except String α} {a : α} :
    complain command? step = .ok a ↔ step = .ok a := by
  cases step <;> simp [complain]

/-- Words that are recognised as named options give settings that these make. -/
theorem isMade_of_collect {command : Command} {settings : List Setting} {strays : List String}
    (each : ∀ spec name attached?, .option spec name attached? ∈ words → IsNamed names spec)
    (collected : collect command names words = .ok (settings, strays)) :
    ∀ setting ∈ settings, IsMade names setting := by
  induction words using collect.induct generalizing settings strays with
  | case1 =>
    rw [collect] at collected
    obtain ⟨rfl, _⟩ := Prod.mk.inj (Except.ok.inj collected)
    nofun
  | case2 text words ih | case3 words ih | case4 text words ih =>
    rw [collect] at collected
    obtain ⟨⟨later, _⟩, behind, collected⟩ := bind_eq_ok_iff.mp collected
    obtain ⟨rfl, _⟩ := Prod.mk.inj (Except.ok.inj collected)
    exact ih (fun spec name attached? member =>
      each spec name attached? (List.mem_cons_of_mem _ member)) behind
  | case5 spec name attached? words ih =>
    rw [collect] at collected
    obtain ⟨⟨first, stray, count⟩, here, collected⟩ := bind_eq_ok_iff.mp collected
    obtain ⟨_, _, collected⟩ := bind_eq_ok_iff.mp collected
    obtain ⟨⟨later, _⟩, behind, collected⟩ := bind_eq_ok_iff.mp collected
    obtain ⟨rfl, _⟩ := Prod.mk.inj (Except.ok.inj collected)
    have named := each spec name attached? List.mem_cons_self
    refine List.forall_mem_append.mpr
      ⟨isMade_of_settingsAt named (complain_eq_ok_iff.mp here), ih count ?_ behind⟩
    exact fun spec name attached? member =>
      each spec name attached? (List.mem_cons_of_mem _ (List.mem_of_mem_drop member))

/-- The settings of a command line are made by options of its command. -/
theorem makes_of_parse {line : List String} {request : Request} (parsed : parse line = .ok request) :
    ∀ setting ∈ request.settings, ∃ spec ∈ request.command.options, spec.takes.Makes setting := by
  unfold parse at parsed
  obtain ⟨words, _, parsed⟩ := bind_eq_ok_iff.mp parsed
  obtain ⟨⟨general, strays, command?⟩, _, parsed⟩ := bind_eq_ok_iff.mp parsed
  dsimp only at parsed
  split at parsed
  · cases parsed
  split at parsed
  · cases parsed
  next command _ =>
  obtain ⟨words, recognised, parsed⟩ := bind_eq_ok_iff.mp parsed
  obtain ⟨⟨settings, others⟩, collected, parsed⟩ := bind_eq_ok_iff.mp parsed
  dsimp only at parsed
  split at parsed
  · obtain rfl := Except.ok.inj parsed
    intro setting member
    obtain ⟨spec, named, makes⟩ := isMade_of_collect (fun spec name attached? =>
      isNamed_of_recognise (complain_eq_ok_iff.mp recognised)) collected setting member
    exact ⟨spec, mem_of_isNamed named, makes⟩
  · cases parsed

end CommandLine

end Patternwright
