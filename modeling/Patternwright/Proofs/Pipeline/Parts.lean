import Patternwright.Proofs.Pipeline.Outline

/-!
# What all parts of an outline have in common

The stages build an outline from few kinds of parts: the dot, literals, the set of the switches and
the anchors, put together in rows, alternatives, repetitions and conditions. So a property that all
of these have, and that goes from smaller parts to larger ones, holds of every part of an outline.

Conditions that something is not to come stand apart: a property may hold of them for other reasons
than that it holds of what is not to come.

## Main definitions

* `Pipeline.Admits` — a property holds of what the stages begin with and is kept by what they do
* `Draft.All` — a property holds of every part of a draft

## Main results

* `Pipeline.Admits.all_outlined` — it holds of every part of an outline
-/

namespace Patternwright

open Regex

/-- The property holds of every part that the draft has. -/
def Draft.All (Holds : Node → Prop) (draft : Draft) : Prop :=
  ∀ row, draft = .ok row → ∀ node ∈ row, Holds node

namespace Draft

variable {Holds : Node → Prop} {draft : Draft}

theorem all_ok {row : List Node} : All Holds (.ok row) ↔ ∀ node ∈ row, Holds node := by
  simp [All]

theorem All.map (all : draft.All Holds) {change : List Node → List Node}
    (keeps : ∀ row, (∀ node ∈ row, Holds node) → ∀ node ∈ change row, Holds node) :
    All Holds (Except.map change draft) := by
  cases draft with
  | error cause => simp [All, Except.map]
  | ok row => exact all_ok.mpr (keeps row (all_ok.mp all))

theorem All.bind (all : draft.All Holds) {change : List Node → Draft}
    (keeps : ∀ row, (∀ node ∈ row, Holds node) → (change row).All Holds) :
    All Holds (Except.bind draft change) := by
  cases draft with
  | error cause => simp [All, Except.bind]
  | ok row => exact keeps row (all_ok.mp all)

end Draft

namespace Pipeline

/-- The property holds of what the stages begin with, and larger parts have it from smaller ones. -/
structure Admits (config : Config) (Holds : Node → Prop) : Prop where
  dot : Holds (.char .any)
  literal : ∀ code, Holds (.char (.one code))
  switches : Holds (.char (.set false (classItems config)))
  lineStart : Holds (.anchor .lineStart)
  lineEnd : Holds (.anchor .lineEnd)
  sequence : ∀ row, (∀ node ∈ row, Holds node) → Holds (.sequence row)
  anyOf : ∀ alternatives, (∀ node ∈ alternatives, Holds node) → Holds (.anyOf alternatives)
  rep : ∀ least most node, Holds node → Holds (.rep .greedy least most node)
  present : ∀ node, Holds node → Holds (.ahead false node)
  absent : ∀ word ∈ config.words .mustNotContain, Holds (contains true word)
  without : config.words .disallowedWords ≠ [] →
    Holds (.ahead true (.sequence [Regex.anything, anyWord (config.words .disallowedWords)]))

namespace Admits

variable {config : Config} {Holds : Node → Prop} (admits : Admits config Holds)

include admits

/-! ### Rows -/

theorem forall_literals (text : List Char) : ∀ node ∈ literals text, Holds node := by
  intro node member
  obtain ⟨c, -, rfl⟩ := List.mem_map.mp member
  exact admits.literal c.toNat

theorem anything : Holds Regex.anything := admits.rep 0 none _ admits.dot

theorem forall_counted {inner : List Char} {node : Node} (holds : Holds node) :
    Draft.All Holds (counted inner node) := by
  intro row made
  unfold counted at made
  rcases asked : asked? inner with cause | _ | bounds <;> rw [asked] at made
  · cases made
  · obtain rfl := Except.ok.inj made
    exact List.forall_mem_cons.mpr ⟨holds, admits.forall_literals _⟩
  · obtain rfl := Except.ok.inj made
    exact List.forall_mem_singleton.mpr (admits.rep _ _ _ holds)

theorem forall_conditions : ∀ node ∈ conditions config, Holds node := by
  intro node member
  rcases List.mem_append.mp member with member | member
  · obtain ⟨word, -, rfl⟩ := List.mem_map.mp member
    refine admits.present _ (admits.sequence _ (List.forall_mem_cons.mpr ?_))
    exact ⟨admits.anything, admits.forall_literals word⟩
  · obtain ⟨word, listed, rfl⟩ := List.mem_map.mp member
    exact admits.absent word listed

theorem anyWord (words : List (List Char)) : Holds (Pipeline.anyWord words) := by
  refine admits.anyOf _ fun node member => ?_
  obtain ⟨word, -, rfl⟩ := List.mem_map.mp member
  exact admits.sequence _ (admits.forall_literals word)

theorem forall_withoutWords :
    ∀ node ∈ withoutWords (config.words .disallowedWords), Holds node := by
  by_cases listed : config.words .disallowedWords = []
  · simp [listed, withoutWords]
  · rw [withoutWords_of_ne_nil listed]
    exact List.forall_mem_cons.mpr
      ⟨admits.without listed, List.forall_mem_singleton.mpr admits.anything⟩

/-- Anchors at both ends of a row take nothing from it. -/
theorem forall_between {row : List Node} (holds : ∀ node ∈ row, Holds node) :
    ∀ node ∈ Node.anchor .lineStart :: (row ++ [.anchor .lineEnd]), Holds node :=
  List.forall_mem_cons.mpr ⟨admits.lineStart, List.forall_mem_append.mpr
    ⟨holds, List.forall_mem_singleton.mpr admits.lineEnd⟩⟩

/-! ### Stages -/

/-- A stage adds no part without the property. -/
theorem all_outline (stage : Stage) {draft : Draft} (all : draft.All Holds) :
    (stage.outline config draft).All Holds := by
  cases stage with
  | characterClass =>
    change Draft.All Holds (.ok (classRow config))
    rw [Draft.all_ok, classRow]
    split
    · simp
    · exact List.forall_mem_singleton.mpr (admits.rep _ _ _ admits.switches)
  | lookarounds =>
    refine all.map fun row holds => List.forall_mem_append.mpr ⟨admits.forall_conditions, ?_⟩
    split
    · exact List.forall_mem_singleton.mpr admits.anything
    · exact holds
  | repetitions =>
    rw [Stage.outline]
    split
    · exact all
    · exact all.bind fun row holds => admits.forall_counted (admits.sequence row holds)
  | lengthBounds =>
    rw [Stage.outline]
    split
    · exact all
    · exact (admits.forall_counted admits.dot).map fun row holds => admits.forall_between holds
  | ends =>
    refine all.map fun row holds => List.forall_mem_append.mpr ⟨?_, admits.forall_literals _⟩
    exact List.forall_mem_append.mpr ⟨admits.forall_literals _, holds⟩
  | words =>
    have allowed : (onlyWords draft (config.words .allowedWords)).All Holds := by
      unfold onlyWords
      split
      · exact all
      · exact Draft.all_ok.mpr (List.forall_mem_singleton.mpr (admits.anyWord _))
    exact allowed.map fun row holds =>
      List.forall_mem_append.mpr ⟨admits.forall_withoutWords, holds⟩
  | custom => exact all

theorem all_foldl (stages : List Stage) : ∀ {draft : Draft}, draft.All Holds →
    (stages.foldl (fun draft stage => stage.outline config draft) draft).All Holds := by
  -- What one stage leaves is what the next one starts from.
  induction stages with
  | nil => exact fun all => all
  | cons stage stages ih => exact fun all => ih (admits.all_outline stage all)

/-- Every part of an outline has the property. -/
theorem all_outlined : (outlined config).All Holds := by
  have all : (outline config).All Holds := admits.all_foldl Stage.all (Draft.all_ok.mpr (by simp))
  exact all.map fun row holds => admits.forall_between holds

end Admits

end Pipeline

end Patternwright
