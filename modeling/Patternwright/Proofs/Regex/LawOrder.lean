import Patternwright.Proofs.Regex.Counts
import Patternwright.Proofs.Regex.Laws
import Mathlib.Order.Basic

/-!
# Comparing laws

One law is below another if it allows no more words than the other at any place. Whatever is built
from a law keeps this order: rows, repetitions, and braces of any kind.

Some laws *merge*: two words that they allow one behind the other they allow as one word. Then an
upper bound for a repetition says nothing that the lower bound has not said, as long as there is one
piece to merge the others into.

## Main definitions

* `Law.times`, `Law.counted` — what a repetition and what braces make of a law
* `Law.Merges` — words one behind the other are as good as one word

## Main results

* `obeys_counted` — a part with braces behind it obeys what they make of its law
* `Law.then_mono`, `Law.times_mono`, `Law.counted_mono` — the order is kept
* `Law.Merges.times_eq` — an upper bound says nothing for a law that merges
-/

namespace Patternwright.Regex

variable {options : Options} {law other : Law}

/-- Words one behind the other, as many as bounds allow. -/
def Law.times (law : Law) (bounds : Bounds) : Law := fun s word =>
  ∃ pieces, word = pieces.flatten ∧ bounds.least ≤ pieces.length ∧
    (∀ limit, bounds.most = some limit → pieces.length ≤ limit) ∧ Pieces law s pieces

/-! ### Order -/

theorem Law.then_mono {next later : Law} (below : law ≤ other) (nextBelow : next ≤ later) :
    law.then next ≤ other.then later := by
  rintro s _ ⟨u, v, rfl, allowed, allowedNext⟩
  exact ⟨u, v, rfl, below s u allowed, nextBelow _ v allowedNext⟩

theorem pieces_mono (below : law ≤ other) (pieces : List (List Char)) :
    ∀ s, Pieces law s pieces → Pieces other s pieces := by
  induction pieces with
  | nil => exact fun _ holds => holds
  | cons piece pieces ih => exact fun s holds => ⟨below s piece holds.1, ih _ holds.2⟩

theorem Law.times_mono (below : law ≤ other) (bounds : Bounds) :
    law.times bounds ≤ other.times bounds := by
  rintro s _ ⟨pieces, rfl, enough, few, holds⟩
  exact ⟨pieces, rfl, enough, few, pieces_mono below pieces s holds⟩

/-! ### Braces -/

/-- What braces make of the law of the part before them. -/
def Law.counted (law : Law) (options : Options) (inner : List Char) : Law :=
  match asked? inner with
  | .ok (some bounds) => law.times bounds
  | .ok none => law.then fun _ word => Spells options (braced inner) word
  | .error _ => fun _ _ => False

theorem Law.counted_mono (below : law ≤ other) (inner : List Char) :
    law.counted options inner ≤ other.counted options inner := by
  unfold counted
  split
  · exact times_mono below _
  · exact then_mono below le_rfl
  · exact le_rfl

/-- A part with braces behind it obeys what the braces make of its law. -/
theorem obeys_counted {node : Node} (obeys : node.Obeys options law) {inner : List Char}
    {row : List Node} (made : counted inner node = .ok row) :
    (Node.sequence row).Obeys options (law.counted options inner) := by
  unfold Regex.counted at made
  unfold Law.counted
  rcases asked : asked? inner with cause | _ | bounds <;> rw [asked] at made
  · cases made
  · obtain rfl := Except.ok.inj made
    exact obeys_sequence_cons obeys (obeys_spelled _)
  · obtain rfl := Except.ok.inj made
    exact obeys_rep obeys (ordered_of_asked? asked)

/-! ### Merging -/

/-- Two words one behind the other are allowed as one word. -/
def Law.Merges (law : Law) : Prop :=
  ∀ s u v, law s u → law (s.advance u.length) v → law s (u ++ v)

/-- Any words one behind the other are allowed as one word, if there is one at all. -/
theorem Law.Merges.flatten (merges : law.Merges) (pieces : List (List Char)) :
    ∀ (first : List Char) (s : State), Pieces law s (first :: pieces) →
      law s (first :: pieces).flatten := by
  -- The first two words become one, which is the first of fewer words.
  induction pieces with
  | nil => exact fun first s holds => by simpa using holds.1
  | cons second pieces ih =>
    rintro first s ⟨allowed, allowedNext, later⟩
    have merged := merges s first second allowed allowedNext
    have fewer := ih (first ++ second) s ⟨merged, by simpa using later⟩
    simpa using fewer

/-- Where words merge, an upper bound says nothing: all pieces beyond the least count go into the
last one that counts. -/
theorem Law.Merges.times_eq (merges : law.Merges) {least : Nat} (positive : 1 ≤ least)
    {most : Option Nat} (fits : ∀ limit, most = some limit → least ≤ limit) :
    law.times ⟨least, most⟩ = law.times ⟨least, some least⟩ := by
  apply le_antisymm
  · rintro s _ ⟨pieces, rfl, enough, -, holds⟩
    obtain ⟨kept, first, rest, rfl, length⟩ :
        ∃ kept first rest, pieces = kept ++ first :: rest ∧ kept.length + 1 = least := by
      have inside : least - 1 < pieces.length := by
        dsimp only at enough
        omega
      exact ⟨pieces.take (least - 1), pieces[least - 1], pieces.drop (least - 1 + 1),
        by rw [← List.drop_eq_getElem_cons inside, List.take_append_drop],
        by rw [List.length_take]; omega⟩
    obtain ⟨start, later⟩ := (pieces_append kept (first :: rest) s).mp holds
    have merged := merges.flatten rest first _ later
    refine ⟨kept ++ [(first :: rest).flatten], by simp, by simp [length], ?_, ?_⟩
    · intro limit same
      simp [length, Option.some.inj same]
    · exact (pieces_append _ _ s).mpr ⟨start, merged, trivial⟩
  · rintro s _ ⟨pieces, rfl, enough, few, holds⟩
    have atMost := few least rfl
    exact ⟨pieces, rfl, enough, fun limit given => atMost.trans (fits limit given), holds⟩

end Patternwright.Regex
