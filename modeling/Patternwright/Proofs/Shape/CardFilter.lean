import Patternwright.Proofs.Pipeline.Widening
import Patternwright.Proofs.Regex.Bare
import Patternwright.Proofs.Shape.Format

/-!
# What card filters accept

The pattern of a filter has the patterns of its brands as alternatives. One of them has a group, and
the number of that group depends on the brands before it. Nothing looks back at it, so a filter
accepts a text as soon as the pattern of one of its brands does by itself, whatever the options are.
Only the brands that a filter names matter: neither their order nor how often they are named, nor
other names.

Where a text is one line to the pattern, a number of a brand begins the text, and with some digits
that are those of this brand. The digits of two brands never agree, so no text has a number of both.

## Main definitions

* `CardBrand.IsWanted` — the brands of a filter
* `Regex.Node.Opens` — what a text goes on with wherever a tree matches
* `CardBrand.leads` — the digits that the numbers of a brand begin with

## Main results

* `Pipeline.accepts_iff_brand` — a filter accepts what one of its brands does
* `Pipeline.not_accepts_both` — no text is accepted for two brands
-/

namespace Patternwright

open Regex

namespace CardBrand

/-! ### Patterns of brands -/

/-- However the group of a brand is numbered, the texts are the same. -/
theorem accepts_row_iff (brand : CardBrand) (options : Options) (before other count more : Nat)
    (text : String) :
    (Pattern.mk (.sequence (brand.row before)) count options).accepts text = true ↔
      (Pattern.mk (.sequence (brand.row other)) more options).accepts text = true := by
  have same : (Node.sequence (brand.row before)).bare = (Node.sequence (brand.row other)).bare := by
    cases brand <;> rfl
  exact Pattern.accepts_iff_of_bare (Pipeline.isPlain_row brand before)
    (Pipeline.isPlain_row brand other) same count more text

theorem isPlain_alternatives (brands : List CardBrand) :
    ∀ node ∈ alternativesFrom groupCount row 1 brands, node.isPlain = true :=
  forall_alternativesFrom Pipeline.isPlain_row brands 1

theorem compile_anyOf {brands : List CardBrand} (nonempty : brands ≠ []) (options : Options) :
    Pattern.compile (anyOf brands) options =
      .ok ⟨.anyOf (alternativesFrom groupCount row 1 brands), 1 + (brands.map groupCount).sum,
        options⟩ := by
  rw [Pipeline.compile_of_read (read_anyOf nonempty),
    Node.fault?_of_isPlain _ (Node.isPlain_anyOf (isPlain_alternatives brands))]

theorem compile_pattern (brand : CardBrand) (options : Options) :
    Pattern.compile brand.pattern options =
      .ok ⟨.sequence (brand.row 1), 1 + brand.groupCount, options⟩ := by
  have single : anyOf [brand] = brand.pattern := by simp [anyOf]
  rw [← single, compile_anyOf (List.cons_ne_nil _ _)]
  rfl

/-- Each brand is among the alternatives, with its group under some number. -/
theorem exists_mem_alternativesFrom_iff {Holds : Node → Prop} {Suits : CardBrand → Prop}
    (same : ∀ (brand : CardBrand) (before : Nat),
      Holds (.sequence (brand.row before)) ↔ Suits brand) (brands : List CardBrand) :
    ∀ before, (∃ node ∈ alternativesFrom groupCount row before brands, Holds node) ↔
      ∃ brand ∈ brands, Suits brand := by
  induction brands with
  | nil => simp [alternativesFrom]
  | cons brand brands ih =>
    intro before
    simp only [alternativesFrom, List.mem_cons, exists_eq_or_imp, same, ih]

/-- The pattern of some brands accepts what the pattern of one of them accepts. -/
theorem accepts_anyOf_iff_brand {brands : List CardBrand} (nonempty : brands ≠ [])
    (options : Options) :
    ∃ pattern, Pattern.compile (anyOf brands) options = .ok pattern ∧ ∀ text : String,
      pattern.accepts text = true ↔ ∃ brand ∈ brands, ∃ own,
        Pattern.compile brand.pattern options = .ok own ∧ own.accepts text = true := by
  refine ⟨_, compile_anyOf nonempty options, fun text => ?_⟩
  have filled : alternativesFrom groupCount row 1 brands ≠ [] := by
    obtain ⟨brand, rest, rfl⟩ := List.exists_cons_of_ne_nil nonempty
    exact List.cons_ne_nil _ _
  rw [Pattern.accepts_anyOf_iff filled (isPlain_alternatives brands)]
  refine exists_mem_alternativesFrom_iff (fun brand before => ?_) brands 1
  rw [compile_pattern, accepts_row_iff brand options before 1 _ (1 + brand.groupCount)]
  simp

/-! ### Brands of a filter -/

/-- The filter lets the numbers of the brand through: it names the brand, or it has no entry. -/
def IsWanted (entries : List Value) (brand : CardBrand) : Prop :=
  entries = [] ∨ .text brand.name ∈ entries

/-- A filter that lets some brand through has the pattern of all brands that it lets through. -/
theorem exists_filterPattern_iff_wanted {entries : List Value}
    (texts : ∀ entry ∈ entries, ∃ name, entry = .text name)
    (known : ∃ brand, IsWanted entries brand) :
    ∃ brands, brands ≠ [] ∧ filterPattern (.list entries) = .ok (anyOf brands) ∧
      ∀ brand : CardBrand, brand ∈ brands ↔ IsWanted entries brand := by
  by_cases empty : entries = []
  · subst empty
    refine ⟨all, List.cons_ne_nil _ _, rfl, fun brand => ?_⟩
    exact iff_of_true (by cases brand <;> decide) (.inl rfl)
  · obtain ⟨brands, selects, -, members⟩ := mem_selected texts
    have same (brand : CardBrand) : brand ∈ brands ↔ IsWanted entries brand := by
      rw [members, IsWanted, or_iff_right empty]
    obtain ⟨brand, wanted⟩ := known
    exact ⟨brands, List.ne_nil_of_mem ((same brand).mpr wanted),
      filterPattern_list empty selects, same⟩

end CardBrand

namespace Pipeline

section Filter

variable {config : Config} (shaped : Shape.select? config = some .creditCard)
  (texts : ∀ entry ∈ config.list .cardBrands, ∃ name, entry = .text name)

include shaped texts

theorem exists_ofConfig_filtered
    (known : ∃ brand : CardBrand, brand.IsWanted (config.list .cardBrands)) :
    ∃ matcher, Matcher.ofConfig config = .ok matcher ∧ ∀ text : String,
      matcher.accepts text = true ↔
        ∃ brand : CardBrand, brand.IsWanted (config.list .cardBrands) ∧ ∃ pattern,
          Pattern.compile brand.pattern (MatchOptions.ofConfig config).toOptions = .ok pattern ∧
            pattern.accepts text = true := by
  obtain ⟨brands, nonempty, filter, wanted⟩ :=
    CardBrand.exists_filterPattern_iff_wanted texts known
  obtain ⟨pattern, compiled, accepts⟩ := CardBrand.accepts_anyOf_iff_brand nonempty
    (MatchOptions.ofConfig config).toOptions
  refine ⟨⟨CardBrand.anyOf brands, pattern, .ofConfig config, some .creditCard⟩, ?_,
    fun text => ?_⟩
  · rw [ofConfig_of_build (build_of_shape shaped filter), compiled]
  · simp only [Matcher.accepts, accepts, wanted]

/-- A filter without entries or with a known brand among them accepts the texts that the pattern of
one of its brands accepts under the same options. So another filter of the same brands accepts the
same texts. -/
theorem accepts_iff_brand
    (known : ∃ brand : CardBrand, brand.IsWanted (config.list .cardBrands)) :
    ∃ matcher, Matcher.ofConfig config = .ok matcher ∧
      (∀ text : String, matcher.accepts text = true ↔
        ∃ brand : CardBrand, brand.IsWanted (config.list .cardBrands) ∧ ∃ pattern,
          Pattern.compile brand.pattern (MatchOptions.ofConfig config).toOptions = .ok pattern ∧
            pattern.accepts text = true) ∧
      ∀ other : Config, Shape.select? other = some .creditCard →
        (∀ entry ∈ other.list .cardBrands, ∃ name, entry = .text name) →
        (∀ brand : CardBrand, brand.IsWanted (other.list .cardBrands) ↔
          brand.IsWanted (config.list .cardBrands)) →
        (MatchOptions.ofConfig other).toOptions = (MatchOptions.ofConfig config).toOptions →
          ∃ matcherOther, Matcher.ofConfig other = .ok matcherOther ∧
            ∀ text : String, matcherOther.accepts text = matcher.accepts text := by
  obtain ⟨matcher, compiled, accepts⟩ := exists_ofConfig_filtered shaped texts known
  refine ⟨matcher, compiled, accepts, fun other shapedOther textsOther same options => ?_⟩
  obtain ⟨brand, wanted⟩ := known
  obtain ⟨matcherOther, compiledOther, acceptsOther⟩ :=
    exists_ofConfig_filtered shapedOther textsOther ⟨brand, (same brand).mpr wanted⟩
  refine ⟨matcherOther, compiledOther, fun text => ?_⟩
  rw [Bool.eq_iff_iff, acceptsOther, accepts]
  simp only [same, options]

end Filter

/-- Cards of two brands, one of them named twice and next to a name of no brand, on any line. -/
def doubled : Config :=
  ((Config.default.setScalar (.shape .creditCard) (.bool true)).setScalar .multiLine
    (.bool true)).setList .cardBrands [.text "jcb", .text "JCB", .text "enroute", .text "jcb"]

/-- The same two brands once each, in another order. -/
def swapped : Config := doubled.setList .cardBrands [.text "enroute", .text "jcb"]

theorem texts_doubled : ∀ entry ∈ doubled.list .cardBrands, ∃ name, entry = .text name := by
  simp [doubled, Config.setList]

theorem accepts_iff_brand_doubled :
    Shape.select? doubled = some .creditCard ∧
      (∀ entry ∈ doubled.list .cardBrands, ∃ name, entry = .text name) ∧
      CardBrand.enRoute.IsWanted (doubled.list .cardBrands) ∧
      ∃ matcher, Matcher.ofConfig doubled = .ok matcher ∧
        matcher.accepts "or\n201400000000000" = true ∧
        ∃ matcherOther, Matcher.ofConfig swapped = .ok matcherOther ∧
          matcherOther.accepts "or\n201400000000000" = true := by
  have wanted : CardBrand.enRoute.IsWanted (doubled.list .cardBrands) :=
    .inr (by simp [doubled, Config.setList, CardBrand.name])
  have same (brand : CardBrand) : brand.IsWanted (swapped.list .cardBrands) ↔
      brand.IsWanted (doubled.list .cardBrands) := by
    cases brand <;> simp [CardBrand.IsWanted, swapped, doubled, Config.setList, CardBrand.name]
  obtain ⟨matcher, compiled, accepts, others⟩ :=
    accepts_iff_brand (rfl : Shape.select? doubled = _) texts_doubled ⟨.enRoute, wanted⟩
  have accepted : matcher.accepts "or\n201400000000000" = true := by
    refine (accepts _).mpr ⟨.enRoute, wanted, _, CardBrand.compile_pattern _ _, ?_⟩
    decide +kernel
  obtain ⟨matcherOther, compiledOther, agree⟩ := others swapped rfl
    (by simp [swapped, Config.setList]) same rfl
  exact ⟨rfl, texts_doubled, wanted, matcher, compiled, accepted, matcherOther, compiledOther,
    (agree _).trans accepted⟩

end Pipeline

/-! ### Digits at the beginning -/

namespace Regex

variable {options : Options}

/-- Wherever the tree matches, the text goes on with one of some words. -/
def Node.Opens (node : Node) (options : Options) (leads : List (List Char)) : Prop :=
  ∀ s t, t ∈ node.ways options s → ∃ lead ∈ leads, lead <+: s.after

theorem opens_group {body : Node} {leads : List (List Char)} (opens : body.Opens options leads)
    (index : Nat) : (Node.group index body).Opens options leads := by
  intro s t reached
  obtain ⟨u, inside, -⟩ := List.mem_map.mp reached
  exact opens (s.enter index) u inside

/-- Alternatives open with what one of them opens with. -/
theorem opens_choices {choices : List (List Node × List (List Char))} (nonempty : choices ≠ [])
    (opens : ∀ choice ∈ choices, (Node.sequence choice.1).Opens options choice.2) :
    (Node.anyOf (choices.map fun choice => .sequence choice.1)).Opens options
      (choices.flatMap Prod.snd) := by
  intro s t reached
  obtain ⟨_, member, inside⟩ := (mem_ways_anyOf (by simpa using nonempty) s t).mp reached
  obtain ⟨choice, listed, rfl⟩ := List.mem_map.mp member
  obtain ⟨lead, known, ahead⟩ := opens choice listed s t inside
  exact ⟨lead, List.mem_flatMap.mpr ⟨choice, listed, known⟩, ahead⟩

/-- A row opens as its first parts do. -/
theorem opens_append {row : List Node} {leads : List (List Char)}
    (opens : (Node.sequence row).Opens options leads) (more : List Node) :
    (Node.sequence (row ++ more)).Opens options leads := by
  intro s t reached
  obtain ⟨middle, inside, -⟩ := (mem_ways_sequence_append row more s t).mp reached
  exact opens s middle inside

section Digits

variable (scripts : options.ascii = false)

include scripts

/-- There is no other case of a digit. -/
theorem isCased_of_isDigit {c : Char} (digit : c.isDigit = true) :
    options.isCased c.toNat = false := by
  have known : ∀ code ∈ List.range' '0'.toNat 10, Unicode.isCased code = false := by decide +kernel
  simpa [Options.isCased, scripts] using known _ (Format.toNat_mem_of_isDigit digit)

theorem literalAccepts_of_isDigit {c : Char} (digit : c.isDigit = true) (d : Char) :
    literalAccepts options c.toNat d.toNat = true ↔ d = c := by
  simp [literalAccepts, isCased_of_isDigit scripts digit, Char.toNat_inj]

theorem spells_iff_of_isDigit {text word : List Char}
    (digits : ∀ c ∈ text, c.isDigit = true) : Spells options text word ↔ word = text := by
  constructor
  · intro spelled
    induction spelled with
    | nil => rfl
    | cons accepted later ih =>
      obtain ⟨digit, others⟩ := List.forall_mem_cons.mp digits
      rw [ih others, (literalAccepts_of_isDigit scripts digit _).mp accepted]
  · rintro rfl
    exact List.forall₂_same.mpr fun c member =>
      (literalAccepts_of_isDigit scripts (digits c member) c).mpr rfl

/-- Digits one behind the other, and what the text goes on with there. -/
theorem opens_digits_append {text : List Char} (digits : ∀ c ∈ text, c.isDigit = true)
    {row : List Node} {leads : List (List Char)} (opens : (Node.sequence row).Opens options leads) :
    (Node.sequence (literals text ++ row)).Opens options (leads.map (text ++ ·)) := by
  intro s t reached
  obtain ⟨middle, first, later⟩ := (mem_ways_sequence_append _ _ s t).mp reached
  obtain ⟨word, ⟨rest, split⟩, spelled, rfl⟩ := (obeys_spelled text s middle).mp first
  obtain rfl := (spells_iff_of_isDigit scripts digits).mp spelled
  obtain ⟨lead, member, ahead⟩ := opens _ t later
  rw [State.advance_after split.symm] at ahead
  refine ⟨word ++ lead, List.mem_map_of_mem member, ?_⟩
  rw [← split]
  exact (List.prefix_append_right_inj word).mpr ahead

theorem opens_digits {text : List Char} (digits : ∀ c ∈ text, c.isDigit = true) :
    (Node.sequence (literals text)).Opens options [text] := by
  intro s t reached
  obtain ⟨word, ahead, spelled, -⟩ := (obeys_spelled text s t).mp reached
  obtain rfl := (spells_iff_of_isDigit scripts digits).mp spelled
  exact ⟨word, List.mem_singleton_self word, ahead⟩

/-- One of some digits. -/
theorem opens_oneOf {choices : List Char} (digits : ∀ c ∈ choices, c.isDigit = true) :
    (CardBrand.oneOf choices).Opens options (choices.map ([·])) := by
  intro s t reached
  obtain ⟨word, ahead, ⟨c, rfl, accepted⟩, -⟩ := (obeys_char _ s t).mp reached
  have still : ((choices.map fun c : Char => SetItem.one c.toNat).any
      (SetItem.isCased options)) = false := by
    refine List.any_eq_false.mpr fun item member => ?_
    obtain ⟨d, listed, rfl⟩ := List.mem_map.mp member
    have small : d.toNat ≤ '9'.toNat := (Format.isDigit_iff.mp (digits d listed)).2
    have limit : '9'.toNat ≤ basicPlaneEnd := by decide
    simp [SetItem.isCased, isCased_of_isDigit scripts (digits d listed)]
    omega
  rw [CharTest.accepts, Bool.bne_false, setContains_of_not_folding (by rw [still, Bool.and_false])]
    at accepted
  obtain ⟨item, member, held⟩ := List.any_eq_true.mp accepted
  obtain ⟨d, listed, rfl⟩ := List.mem_map.mp member
  obtain rfl : c = d := Char.toNat_inj.mp (by simpa [SetItem.contains] using held)
  exact ⟨[c], List.mem_map_of_mem listed, ahead⟩

end Digits

end Regex

namespace CardBrand

/-- The digits that the numbers of a brand begin with. -/
def leads : CardBrand → List String
  | visa => ["4"]
  | mastercard => ["5"]
  | amex => ["34", "37"]
  | discover => ["6011", "65"]
  | jcb => ["2131", "1800", "35"]
  | dinersClub => ["30", "36", "38"]
  | enRoute => ["2014", "2149"]
  | unionPay => ["62"]

theorem mem_all (brand : CardBrand) : brand ∈ all := by cases brand <;> decide

/-- Numbers of different brands do not begin alike. -/
theorem leads_apart : ∀ brand ∈ all, ∀ rival ∈ all, brand ≠ rival →
    ∀ lead ∈ brand.leads, ∀ other ∈ rival.leads, ¬ lead.toList <+: other.toList := by decide

variable {options : Options}

/-- The content of a brand's pattern opens with the digits of the brand. -/
theorem opens_content (scripts : options.ascii = false) (brand : CardBrand) (before : Nat) :
    (Node.sequence (brand.content before)).Opens options (brand.leads.map String.toList) := by
  have digits (text : String) (all : text.toList.all Char.isDigit = true) :
      (Node.sequence (literals text.toList)).Opens options [text.toList] :=
    opens_digits scripts (List.all_eq_true.mp all)
  have choice (choices : List Char) (all : choices.all Char.isDigit = true) :
      (Node.sequence [oneOf choices]).Opens options (choices.map ([·])) :=
    opens_oneOf scripts (List.all_eq_true.mp all)
  have behind (text : String) (all : text.toList.all Char.isDigit = true) {row : List Node}
      {leads : List (List Char)} (opens : (Node.sequence row).Opens options leads) :
      (Node.sequence (literals text.toList ++ row)).Opens options
        (leads.map (text.toList ++ ·)) :=
    opens_digits_append scripts (List.all_eq_true.mp all) opens
  cases brand with
  | visa => exact opens_append (opens_append (digits "4" rfl) _) _
  | mastercard => exact opens_append (opens_append (digits "5" rfl) _) _
  | unionPay => exact opens_append (digits "62" rfl) _
  | amex => exact opens_append (behind "3" rfl (choice ['4', '7'] rfl)) _
  | discover =>
    have either : (Node.sequence [_]).Opens options _ :=
      opens_choices (List.cons_ne_nil (_, _) [(_, _)]) (List.forall_mem_cons.mpr
        ⟨digits "011" rfl, List.forall_mem_singleton.mpr
          (opens_append (digits "5" rfl) [times 2 digit])⟩)
    exact opens_append (behind "6" rfl either) _
  | jcb =>
    have either : (Node.sequence [_]).Opens options _ :=
      opens_choices (List.cons_ne_nil (_, _) [(_, _), (_, _)]) (List.forall_mem_cons.mpr
        ⟨digits "2131" rfl, List.forall_mem_cons.mpr ⟨digits "1800" rfl,
          List.forall_mem_singleton.mpr (opens_append (digits "35" rfl) [times 3 anyDigit])⟩⟩)
    exact opens_append either _
  | dinersClub =>
    have either : (Node.sequence [_]).Opens options _ :=
      opens_choices (List.cons_ne_nil (_, _) [(_, _)]) (List.forall_mem_cons.mpr
        ⟨opens_append (digits "0" rfl) [upTo '0' '5'], List.forall_mem_singleton.mpr
          (opens_append (choice ['6', '8'] rfl) [digit])⟩)
    exact opens_append (behind "3" rfl either) _
  | enRoute =>
    have either := opens_choices (List.cons_ne_nil (_, _) [(_, _)]) (List.forall_mem_cons.mpr
      ⟨digits "014" rfl, List.forall_mem_singleton.mpr (digits "149" rfl)⟩)
    have captured : (Node.sequence [_]).Opens options _ := opens_group either before
    exact opens_append (behind "2" rfl captured) _

/-- Where a text is one line to the pattern of a brand, an accepted text begins with digits of the
brand. -/
theorem exists_lead_prefix (scripts : options.ascii = false) (single : options.multiLine = false)
    (brand : CardBrand) {before count : Nat} {text : String}
    (accepted : (Pattern.mk (.sequence (brand.row before)) count options).accepts text = true) :
    ∃ lead ∈ brand.leads, lead.toList <+: text.toList := by
  obtain ⟨passed, rest, split, -, t, reached⟩ := (Pattern.accepts_iff _ text).mp accepted
  obtain ⟨start, inside⟩ := (mem_ways_lineStart single _ _ t).mp reached
  obtain rfl : passed = [] := List.reverse_eq_nil_iff.mp start
  obtain ⟨_, member, ahead⟩ := opens_append (opens_content scripts brand before) _ _ t inside
  obtain ⟨lead, listed, rfl⟩ := List.mem_map.mp member
  exact ⟨lead, listed, split ▸ ahead⟩

end CardBrand

namespace Pipeline

theorem exists_lead_prefix_of_only {config : Config} {brand : CardBrand}
    (shaped : Shape.select? config = some .creditCard)
    (only : config.list .cardBrands = [.text brand.name])
    (single : config.isOn .multiLine = false) :
    ∃ matcher, Matcher.ofConfig config = .ok matcher ∧ ∀ text : String,
      matcher.accepts text = true → ∃ lead ∈ brand.leads, lead.toList <+: text.toList := by
  have named : brand.IsWanted (config.list .cardBrands) := .inr (by simp [only])
  obtain ⟨matcher, compiled, accepts⟩ :=
    exists_ofConfig_filtered shaped (by simp [only]) ⟨brand, named⟩
  refine ⟨matcher, compiled, fun text accepted => ?_⟩
  obtain ⟨other, wanted, pattern, own, accepted⟩ := (accepts text).mp accepted
  -- The one name in the filter is that of one brand.
  obtain rfl : other = brand := by
    have same : other.name = brand.name := by simpa [CardBrand.IsWanted, only] using wanted
    exact Option.some.inj ((CardBrand.ofName?_eq_some_iff.mpr same).symm.trans
      (CardBrand.ofName?_eq_some_iff.mpr rfl))
  rw [CardBrand.compile_pattern] at own
  obtain rfl := Except.ok.inj own
  exact CardBrand.exists_lead_prefix rfl single other accepted

/-- No text is accepted by a filter of one brand and by a filter of another one, whatever else is
set, if only the text is one line to both. -/
theorem not_accepts_both {config other : Config} {brand rival : CardBrand}
    (different : brand ≠ rival) (shaped : Shape.select? config = some .creditCard)
    (shapedOther : Shape.select? other = some .creditCard)
    (only : config.list .cardBrands = [.text brand.name])
    (onlyOther : other.list .cardBrands = [.text rival.name])
    (single : config.isOn .multiLine = false) (singleOther : other.isOn .multiLine = false) :
    ∃ matcher matcherOther, Matcher.ofConfig config = .ok matcher ∧
      Matcher.ofConfig other = .ok matcherOther ∧
      ∀ text : String, ¬ (matcher.accepts text = true ∧ matcherOther.accepts text = true) := by
  obtain ⟨matcher, compiled, begins⟩ := exists_lead_prefix_of_only shaped only single
  obtain ⟨matcherOther, compiledOther, beginsOther⟩ :=
    exists_lead_prefix_of_only shapedOther onlyOther singleOther
  refine ⟨matcher, matcherOther, compiled, compiledOther, fun text both => ?_⟩
  obtain ⟨lead, listed, ahead⟩ := begins text both.1
  obtain ⟨leadOther, listedOther, aheadOther⟩ := beginsOther text both.2
  -- Of two beginnings of one text, one begins with the other.
  rcases List.prefix_or_prefix_of_prefix ahead aheadOther with within | within
  · exact CardBrand.leads_apart brand brand.mem_all rival rival.mem_all different lead listed
      leadOther listedOther within
  · exact CardBrand.leads_apart rival rival.mem_all brand brand.mem_all different.symm leadOther
      listedOther lead listed within

/-- Cards of one brand, whatever the case of letters. -/
def branded (brand : CardBrand) : Config :=
  ((Config.default.setScalar (.shape .creditCard) (.bool true)).setScalar .caseInsensitive
    (.bool true)).setList .cardBrands [.text brand.name]

theorem not_accepts_both_branded :
    CardBrand.discover ≠ CardBrand.unionPay ∧
      Shape.select? (branded .discover) = some .creditCard ∧
      Shape.select? (branded .unionPay) = some .creditCard ∧
      (branded .discover).list .cardBrands = [.text CardBrand.discover.name] ∧
      (branded .unionPay).list .cardBrands = [.text CardBrand.unionPay.name] ∧
      (branded .discover).isOn .multiLine = false ∧ (branded .unionPay).isOn .multiLine = false ∧
      ∃ matcher matcherOther, Matcher.ofConfig (branded .discover) = .ok matcher ∧
        Matcher.ofConfig (branded .unionPay) = .ok matcherOther ∧
        ∀ text : String, ¬ (matcher.accepts text = true ∧ matcherOther.accepts text = true) := by
  have different : CardBrand.discover ≠ CardBrand.unionPay := by decide
  exact ⟨different, rfl, rfl, rfl, rfl, rfl, rfl,
    not_accepts_both different rfl rfl rfl rfl rfl rfl⟩

end Pipeline

end Patternwright
