import Mathlib.Algebra.Field.Rat
import Patternwright.Matcher
import Patternwright.Proofs.Config.Keys

/-!
# Equal values

Values that are equal need not be the same: a truth value equals zero or one, and whole numbers
equal fractional ones. They are alike wherever only their truth matters. So configurations that are
equal have the same switches and the same shape, and matchers that are equal accept the same texts,
since a matcher carries the text of its pattern with it.

A value equals itself, unless there is something in it that is not a number.

## Main definitions

* `Value.IsDefinite` — a value without anything that does not equal itself

## Main results

* `Value.isTruthy_eq_of_isSame` — equal values are truthy alike
* `Value.isSame_self` — a value equals itself
* `Shape.select?_eq_of_isSame` — equal configurations have the same shape
* `Matcher.accepts_eq_of_isSame` — equal matchers accept the same texts
-/

namespace Patternwright

/-! ### Truth -/

namespace Binary64

theorem den_fraction_ne_zero (mantissa : Nat) (exponent : Int) :
    (fraction mantissa exponent).2 ≠ 0 := by
  unfold fraction
  split
  · exact (Nat.pow_pos (by decide)).ne'
  · exact one_ne_zero

theorem num_fraction_eq_zero {mantissa : Nat} {exponent : Int} :
    (fraction mantissa exponent).1 = 0 ↔ mantissa = 0 := by
  unfold fraction
  split
  · rfl
  · have scale : Nat.pow 2 exponent.toNat ≠ 0 := (Nat.pow_pos (by decide)).ne'
    rw [Nat.mul_eq_zero, or_iff_left scale]

/-- A number that is a rational is zero just if that is. -/
theorem isZero_iff {x : Binary64} {q : Rat} (rational : x.toRat? = some q) :
    x.isZero = true ↔ q = 0 := by
  cases x with
  | finite negative mantissa exponent =>
    have counts : toRat? (.finite negative mantissa exponent) =
        some (if negative then -mkRat (fraction mantissa exponent).1 (fraction mantissa exponent).2
          else mkRat (fraction mantissa exponent).1 (fraction mantissa exponent).2) := rfl
    obtain rfl := Option.some.inj (counts.symm.trans rational)
    have magnitude : mkRat (fraction mantissa exponent).1 (fraction mantissa exponent).2 = 0 ↔
        mantissa = 0 := by
      rw [Rat.mkRat_eq_zero (den_fraction_ne_zero mantissa exponent), Int.natCast_eq_zero,
        num_fraction_eq_zero]
    rw [isZero, beq_iff_eq, ← magnitude]
    cases negative with
    | false => rfl
    | true => rw [if_pos rfl, neg_eq_zero]
  | infinite negative => cases rational
  | notANumber => cases rational

end Binary64

namespace Value

variable {v w : Value}

theorem isTruthy_iff_of_number? {q : Rat} (counts : v.number? = some q) :
    v.isTruthy = true ↔ q ≠ 0 := by
  cases v with
  | bool b =>
    obtain rfl := Option.some.inj counts
    cases b <;> simp [isTruthy]
  | int n =>
    obtain rfl := Option.some.inj counts
    simp [isTruthy]
  | real x =>
    rw [isTruthy, Bool.not_eq_true', ← Bool.not_eq_true, Binary64.isZero_iff counts]
  | _ => cases counts

theorem isTruthy_of_unbounded? {negative : Bool} (unbounded : v.unbounded? = some negative) :
    v.isTruthy = true := by
  cases v with
  | real x =>
    cases x with
    | infinite => rfl
    | _ => cases unbounded
  | _ => cases unbounded

/-- Equal values are truthy alike. -/
theorem isTruthy_eq_of_isSame (same : v.isSame w = true) : v.isTruthy = w.isTruthy := by
  rw [isSame.eq_def] at same
  split at same
  · next items others => cases items <;> cases others <;> simp_all [areSame, isTruthy]
  · next members others =>
    have lengths : members.length = others.length := by
      simpa using (Bool.and_eq_true_iff.mp same).1
    cases members <;> cases others <;> simp_all [isTruthy]
  · rfl
  · next s t => rw [beq_iff_eq.mp same]
  · split at same
    · next m n counts countsOther =>
      obtain rfl : m = n := by simpa using same
      rw [Bool.eq_iff_iff, isTruthy_iff_of_number? counts, isTruthy_iff_of_number? countsOther]
    · split at same
      · next m n unbounded unboundedOther =>
        rw [isTruthy_of_unbounded? unbounded, isTruthy_of_unbounded? unboundedOther]
      · cases same

/-! ### Reflexivity -/

/-- Nothing in the value is not a number, and its objects have every key once. -/
inductive IsDefinite : Value → Prop
  | null : IsDefinite .null
  | bool (b : Bool) : IsDefinite (.bool b)
  | int (n : Int) : IsDefinite (.int n)
  | real {x : Binary64} (number : x ≠ .notANumber) : IsDefinite (.real x)
  | text (s : String) : IsDefinite (.text s)
  | list {items : List Value} (each : ∀ v ∈ items, IsDefinite v) : IsDefinite (.list items)
  | object {members : List (String × Value)} (keys : (members.map Prod.fst).Nodup)
      (each : ∀ member ∈ members, IsDefinite member.2) : IsDefinite (.object members)

theorem areSame_self {items : List Value} (each : ∀ v ∈ items, v.isSame v = true) :
    areSame items items = true := by
  induction items with
  | nil => rw [areSame]
  | cons v items ih =>
    obtain ⟨first, later⟩ := List.forall_mem_cons.mp each
    rw [areSame, first, ih later, Bool.and_self]

/-- Members are found under their keys, if no key comes twice. -/
theorem membersSame_of_lookup {members others : List (String × Value)}
    (each : ∀ member ∈ members, others.lookup member.1 = some member.2 ∧
      member.2.isSame member.2 = true) : membersSame members others = true := by
  induction members with
  | nil => rw [membersSame]
  | cons member members ih =>
    obtain ⟨⟨found, same⟩, later⟩ := List.forall_mem_cons.mp each
    rw [membersSame, found, ih later, Option.any_some, same, Bool.and_self]

theorem lookup_of_mem {members : List (String × Value)} (keys : (members.map Prod.fst).Nodup)
    {member : String × Value} (among : member ∈ members) :
    members.lookup member.1 = some member.2 := by
  induction members with
  | nil => cases among
  | cons first members ih =>
    rw [List.map_cons, List.nodup_cons] at keys
    rw [List.lookup_cons]
    rcases List.mem_cons.mp among with rfl | among
    · simp
    · have differs : (member.1 == first.1) = false := by
        rw [beq_eq_false_iff_ne]
        rintro same
        exact keys.1 (same ▸ List.mem_map_of_mem among)
      rw [differs]
      exact ih keys.2 among

/-- A value equals itself. -/
theorem isSame_self (definite : v.IsDefinite) : v.isSame v = true := by
  induction definite with
  | null => rw [isSame]
  | bool b => simp [isSame, number?]
  | int n => simp [isSame, number?]
  | real number =>
    rename_i x
    cases x with
    | notANumber => exact absurd rfl number
    | _ => simp [isSame, number?, unbounded?, Binary64.toRat?]
  | text s => simp [isSame]
  | list _ ih => rw [isSame, areSame_self ih]
  | object keys _ ih =>
    rw [isSame, beq_self_eq_true, Bool.true_and]
    exact membersSame_of_lookup fun member among => ⟨lookup_of_mem keys among, ih member among⟩

end Value

/-! ### Configurations -/

namespace Config

variable {config other : Config}

theorem isSame_get (same : config.isSame other = true) (field : Field) :
    (config.get field).isSame (other.get field) = true :=
  List.all_eq_true.mp same field field.mem_all

/-- Equal configurations have the same switches on. -/
theorem isOn_eq_of_isSame (same : config.isSame other = true) (field : Scalar) :
    config.isOn field = other.isOn field :=
  Value.isTruthy_eq_of_isSame (isSame_get same (.scalar field))

theorem isSame_self (definite : ∀ field, (config.get field).IsDefinite) :
    config.isSame config = true :=
  List.all_eq_true.mpr fun field _ => Value.isSame_self (definite field)

end Config

/-- Equal configurations have the same shape. -/
theorem Shape.select?_eq_of_isSame {config other : Config} (same : config.isSame other = true) :
    Shape.select? config = Shape.select? other := by
  rw [select?, select?]
  simp only [Config.isOn_eq_of_isSame same]

/-! ### Matchers -/

/-- Nothing in the options is not a number. -/
structure MatchOptions.IsDefinite (options : MatchOptions) : Prop where
  caseInsensitive : options.caseInsensitive.IsDefinite
  multiLine : options.multiLine.IsDefinite
  dotAll : options.dotAll.IsDefinite

namespace Matcher

variable {matcher other : Matcher}

/-- The pattern of a matcher is that of its text under its options. -/
theorem compile_of_ofConfig {config : Config} (made : ofConfig config = .ok matcher) :
    Regex.Pattern.compile matcher.text matcher.options.toOptions = .ok matcher.pattern := by
  unfold ofConfig at made
  obtain ⟨⟨shape?, text⟩, -, made⟩ := bind_eq_ok_iff.mp made
  dsimp only at made
  split at made
  · next pattern compiled =>
    obtain rfl := Except.ok.inj made
    exact compiled
  · cases made

/-- Equal matchers have the same text, and the same options are on. -/
theorem eq_of_isSame (same : matcher.isSame other = true) :
    matcher.text = other.text ∧ matcher.options.toOptions = other.options.toOptions := by
  have each : (Value.text matcher.text).isSame (.text other.text) = true ∧
      (shapeValue matcher.shape?).isSame (shapeValue other.shape?) = true ∧
      matcher.options.caseInsensitive.isSame other.options.caseInsensitive = true ∧
      matcher.options.multiLine.isSame other.options.multiLine = true ∧
      matcher.options.dotAll.isSame other.options.dotAll = true ∧
      (Value.bool true).isSame (.bool true) = true := by
    rw [isSame, toValue, toValue, Value.isSame] at same
    simpa [MatchOptions.named, Value.membersSame, List.lookup_cons] using same
  obtain ⟨text, -, caseInsensitive, multiLine, dotAll, -⟩ := each
  refine ⟨by simpa [Value.isSame] using text, ?_⟩
  rw [MatchOptions.toOptions, MatchOptions.toOptions, Value.isTruthy_eq_of_isSame caseInsensitive,
    Value.isTruthy_eq_of_isSame multiLine, Value.isTruthy_eq_of_isSame dotAll]

/-- Equal matchers accept the same texts. -/
theorem accepts_eq_of_isSame {config another : Config} (made : ofConfig config = .ok matcher)
    (madeOther : ofConfig another = .ok other) (same : matcher.isSame other = true)
    (text : String) : matcher.accepts text = other.accepts text := by
  obtain ⟨texts, options⟩ := eq_of_isSame same
  have compiled := compile_of_ofConfig made
  rw [texts, options, compile_of_ofConfig madeOther] at compiled
  rw [accepts, accepts, Except.ok.inj compiled]

/-- A matcher equals itself. -/
theorem isSame_self (definite : matcher.options.IsDefinite) : matcher.isSame matcher = true := by
  refine Value.isSame_self (.object (by simp [MatchOptions.named]) ?_)
  have shape : (shapeValue matcher.shape?).IsDefinite := by
    unfold shapeValue
    split
    · exact .text _
    · exact .null
  simp only [MatchOptions.named, List.forall_mem_cons]
  exact ⟨.text _, shape, definite.caseInsensitive, definite.multiLine, definite.dotAll, .bool true,
    List.forall_mem_nil _⟩

end Matcher

end Patternwright
