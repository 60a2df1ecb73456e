import Patternwright.Proofs.Pipeline.Compile
import Patternwright.Proofs.Regex.Laws

/-!
# Card filters

A filter of names selects the brands that have these names, each once. Names of no brand are
skipped, so a filter can be left with no brand at all. Its pattern is then empty, and the empty
pattern is found in every text: such a filter keeps nothing out.

## Main results

* `CardBrand.mem_selected` — the brands that a filter selects
* `Pipeline.accepts_of_unknown_brands` — a filter without any known brand accepts every text
-/

namespace Patternwright

open Regex

namespace CardBrand

/-! ### Names of brands -/

theorem ofName?_eq_some_iff {name : String} {brand : CardBrand} :
    ofName? name = some brand ↔ brand.name = name := by
  constructor
  · intro found
    simpa using List.find?_some found
  · rintro rfl
    cases brand <;> rfl

/-! ### Selected brands -/

/-- The entries of a filter of texts can all be looked up. -/
theorem mapM_ofValue? (entries : List Value) :
    (∀ entry ∈ entries, ∃ name, entry = .text name) →
      ∃ found, entries.mapM ofValue? = .ok found ∧
        ∀ brand : CardBrand, some brand ∈ found ↔ .text brand.name ∈ entries := by
  induction entries with
  | nil => exact fun _ => ⟨[], rfl, by simp⟩
  | cons entry entries ih =>
    intro texts
    obtain ⟨name, rfl⟩ := texts entry List.mem_cons_self
    obtain ⟨found, looked, same⟩ := ih fun other member =>
      texts other (List.mem_cons_of_mem _ member)
    refine ⟨ofName? name :: found, ?_, fun brand => ?_⟩
    · rw [List.mapM_cons, looked]
      rfl
    · rw [List.mem_cons, List.mem_cons, same brand, eq_comm, ofName?_eq_some_iff,
        Value.text.injEq]

/-- Some brands, and one more unless it is there already. -/
def withBrand (brands : List CardBrand) : Option CardBrand → List CardBrand
  | some brand => if brands.contains brand then brands else brands ++ [brand]
  | none => brands

theorem mem_withBrand {brands : List CardBrand} {found? : Option CardBrand} {brand : CardBrand} :
    brand ∈ withBrand brands found? ↔ brand ∈ brands ∨ some brand = found? := by
  cases found? with
  | none => simp [withBrand]
  | some found =>
    by_cases there : found ∈ brands
    · simp only [withBrand, List.contains_iff_mem, there, ↓reduceIte, Option.some.injEq]
      exact ⟨.inl, fun known => known.elim id (· ▸ there)⟩
    · simp [withBrand, there]

theorem nodup_withBrand {brands : List CardBrand} (single : brands.Nodup)
    (found? : Option CardBrand) : (withBrand brands found?).Nodup := by
  cases found? with
  | none => exact single
  | some found =>
    by_cases there : found ∈ brands
    · simpa [withBrand, there] using single
    · simpa [withBrand, there, List.nodup_append] using
        ⟨single, fun other known same => there (same ▸ known)⟩

theorem mem_foldl_withBrand (found : List (Option CardBrand)) (brand : CardBrand) :
    ∀ start : List CardBrand,
      brand ∈ found.foldl withBrand start ↔ brand ∈ start ∨ some brand ∈ found := by
  induction found with
  | nil => simp
  | cons found? found ih =>
    intro start
    rw [List.foldl_cons, ih, mem_withBrand, List.mem_cons, or_assoc]

theorem nodup_foldl_withBrand (found : List (Option CardBrand)) : ∀ start : List CardBrand,
    start.Nodup → (found.foldl withBrand start).Nodup := by
  induction found with
  | nil => exact fun _ single => single
  | cons found? found ih => exact fun _ single => ih _ (nodup_withBrand single found?)

theorem selected_eq (entries : List Value) :
    selected entries = (entries.mapM ofValue?).map (·.foldl withBrand []) := by
  rw [selected]
  cases entries.mapM ofValue? with
  | error fault => rfl
  | ok found =>
    refine congrArg (fun step => Except.ok (found.foldl step [])) ?_
    funext brands found?
    cases found? <;> rfl

/-- A filter of texts selects the brands that it names, each once. -/
theorem mem_selected {entries : List Value}
    (texts : ∀ entry ∈ entries, ∃ name, entry = .text name) :
    ∃ brands, selected entries = .ok brands ∧ brands.Nodup ∧
      ∀ brand : CardBrand, brand ∈ brands ↔ .text brand.name ∈ entries := by
  obtain ⟨found, looked, same⟩ := mapM_ofValue? entries texts
  refine ⟨found.foldl withBrand [], ?_, nodup_foldl_withBrand found [] List.nodup_nil, ?_⟩
  · rw [selected_eq, looked]
    rfl
  · intro brand
    rw [← same brand, mem_foldl_withBrand]
    simp

/-- A filter with entries has the patterns of the brands that it selects. -/
theorem filterPattern_list {entries : List Value} (filtered : entries ≠ [])
    {brands : List CardBrand} (selects : selected entries = .ok brands) :
    filterPattern (.list entries) = .ok (anyOf brands) := by
  have truthy : (Value.list entries).isTruthy = true := by simpa [Value.isTruthy] using filtered
  rw [filterPattern, if_pos truthy, Value.elements]
  change (do return anyOf (← selected entries)) = _
  rw [selects]
  rfl

end CardBrand

namespace Pipeline

section Unknown

variable {config : Config} (shaped : Shape.select? config = some .creditCard)
  (filtered : config.list .cardBrands ≠ [])
  (texts : ∀ entry ∈ config.list .cardBrands, ∃ name, entry = .text name)
  (unknown : ∀ brand : CardBrand, .text brand.name ∉ config.list .cardBrands)

include shaped filtered texts unknown

theorem ofConfig_of_unknown_brands :
    Matcher.ofConfig config = .ok ⟨"", ⟨.empty, 1, (MatchOptions.ofConfig config).toOptions⟩,
      MatchOptions.ofConfig config, some .creditCard⟩ := by
  obtain ⟨brands, selects, -, members⟩ := CardBrand.mem_selected texts
  -- No brand is left, and alternatives of no brand are the empty pattern.
  obtain rfl : brands = [] := List.eq_nil_iff_forall_not_mem.mpr fun brand member =>
    unknown brand ((members brand).mp member)
  have pattern : Shape.creditCard.pattern config = .ok "" :=
    CardBrand.filterPattern_list filtered selects
  have empty : Reads "".toList [] := reads_nil
  rw [ofConfig_of_build (build_of_shape shaped pattern), compile_of_reads empty isSound_nil]
  rfl

/-- A filter without any known brand keeps nothing out: its pattern is empty. -/
theorem accepts_of_unknown_brands :
    ∃ matcher, Matcher.ofConfig config = .ok matcher ∧ matcher.text = "" ∧
      ∀ text : String, matcher.accepts text = true :=
  ⟨_, ofConfig_of_unknown_brands shaped filtered texts unknown, rfl,
    fun text => Pattern.accepts_empty 1 _ text⟩

end Unknown

/-- A filter for cards whose one name is in capitals. -/
def capitals : Config :=
  (Config.default.setScalar (.shape .creditCard) (.bool true)).setList .cardBrands [.text "VISA"]

theorem filtered_capitals : capitals.list .cardBrands ≠ [] := List.cons_ne_nil _ _

theorem texts_capitals : ∀ entry ∈ capitals.list .cardBrands, ∃ name, entry = .text name :=
  fun _ member => ⟨"VISA", List.mem_singleton.mp member⟩

theorem unknown_capitals (brand : CardBrand) : .text brand.name ∉ capitals.list .cardBrands := by
  intro member
  have same := Value.text.inj (List.mem_singleton.mp member)
  revert same
  cases brand <;> decide

theorem accepts_of_unknown_brands_capitals :
    Shape.select? capitals = some .creditCard ∧ capitals.list .cardBrands ≠ [] ∧
      (∀ entry ∈ capitals.list .cardBrands, ∃ name, entry = .text name) ∧
      (∀ brand : CardBrand, .text brand.name ∉ capitals.list .cardBrands) ∧
      ∃ matcher, Matcher.ofConfig capitals = .ok matcher ∧ matcher.text = "" ∧
        ∀ text : String, matcher.accepts text = true :=
  ⟨rfl, filtered_capitals, texts_capitals, unknown_capitals,
    accepts_of_unknown_brands rfl filtered_capitals texts_capitals unknown_capitals⟩

/-- Such a filter does not keep everything out. -/
theorem not_rejects_of_unknown_brands :
    ¬ ∀ (config : Config) (matcher : Matcher) (text : String),
      Shape.select? config = some .creditCard → config.list .cardBrands ≠ [] →
      (∀ entry ∈ config.list .cardBrands, ∃ name, entry = .text name) →
      (∀ brand : CardBrand, .text brand.name ∉ config.list .cardBrands) →
      Matcher.ofConfig config = .ok matcher → matcher.accepts text = false := by
  intro rejects
  have compiled := ofConfig_of_unknown_brands rfl filtered_capitals texts_capitals unknown_capitals
  have rejected := rejects capitals _ "x" rfl filtered_capitals texts_capitals unknown_capitals
    compiled
  exact absurd (Pattern.accepts_empty 1 _ "x") (by simpa [Matcher.accepts] using rejected)

end Pipeline

end Patternwright
