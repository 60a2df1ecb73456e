import Patternwright.Proofs.Config.Keys
import Patternwright.Proofs.Json.Document

/-!
# The document of a configuration

A configuration is written with all its fields under their names, and these are names that are read
back: no name is the alias of another field. So the document gives every field its value again, in
whatever order its members come.

## Main definitions

* `Config.IsSimple` — the values of a configuration are no lists or objects themselves

## Main results

* `Config.ofMembers_names` — members under the names of all fields give these fields their values
* `Config.ofDocument_inOrder` — a configuration is read back from its document
-/

namespace Patternwright

open Regex (IsShort)

/-- A value that is no list, no object and no fractional number, and short if it is a number. -/
inductive Value.IsSimple : Value → Prop
  | null : IsSimple .null
  | bool (b : Bool) : IsSimple (.bool b)
  | int {n : Int} (short : IsShort n) : IsSimple (.int n)
  | text (s : String) : IsSimple (.text s)

namespace Value

theorem IsSimple.isPortable {v : Value} (simple : v.IsSimple) : v.IsPortable := by
  cases simple with
  | null => exact .null
  | bool b => exact .bool b
  | int short => exact .int short
  | text s => exact .text s

theorem IsSimple.inOrder {v : Value} (simple : v.IsSimple) : v.inOrder = v := by
  cases simple <;> rfl

end Value

namespace Field

theorem name_nodup : (all.map name).Nodup := by
  decide

end Field

namespace Config

/-- The values of a configuration are no lists or objects themselves. -/
structure IsSimple (config : Config) : Prop where
  scalar : ∀ field, (config.scalar field).IsSimple
  list : ∀ field, ∀ v ∈ config.list field, v.IsSimple

variable {config : Config}

theorem IsSimple.isPortable_get (simple : config.IsSimple) (field : Field) :
    (config.get field).IsPortable := by
  cases field with
  | scalar field => exact (simple.scalar field).isPortable
  | list field => exact .list fun v member => (simple.list field v member).isPortable

theorem IsSimple.inOrder_get (simple : config.IsSimple) (field : Field) :
    (config.get field).inOrder = config.get field := by
  cases field with
  | scalar field => exact (simple.scalar field).inOrder
  | list field =>
    rw [get, Value.inOrder, Value.itemsInOrder_eq]
    have same : ∀ v ∈ config.list field, v.inOrder = id v :=
      fun v member => (simple.list field v member).inOrder
    rw [List.map_congr_left same, List.map_id]

theorem IsSimple.isPortable (simple : config.IsSimple) : config.toValue.IsPortable := by
  refine .object ?_ fun member found => ?_
  · rw [List.map_map]
    exact Field.name_nodup
  · obtain ⟨field, _, rfl⟩ := List.mem_map.mp found
    exact simple.isPortable_get field

theorem changesOfKeys_names (value : Field → Value) (fields : List Field) :
    changesOfKeys (fields.map fun field => (field.name, value field)) =
      .ok (fields.map fun field => (field, value field)) := by
  induction fields with
  | nil => rfl
  | cons field fields ih =>
    rw [changesOfKeys] at ih ⊢
    rw [List.map_cons, List.mapM_cons, ih]
    simp only [Field.ofKey?_name]
    rfl

/-- Changes that give every field one value give it this value, however often. -/
theorem lastChange?_map (value : Field → Value) {fields : List Field} {field : Field}
    (member : field ∈ fields) :
    lastChange? field (fields.map fun field => (field, value field)) = some (value field) := by
  have first : ∀ {fields : List Field}, field ∈ fields →
      (fields.map fun field => (field, value field)).find? (fun change => change.1 = field) =
        some (field, value field) := by
    intro fields member
    induction fields with
    | nil => cases member
    | cons other fields ih =>
      rw [List.map_cons, List.find?_cons]
      by_cases same : other = field
      · simp [same]
      · simpa [same] using ih ((List.mem_cons.mp member).resolve_left (Ne.symm same))
  rw [lastChange?, ← List.map_reverse, first (List.mem_reverse.mpr member)]
  rfl

/-- Members under the names of all fields give these fields their values, in whatever order. -/
theorem ofMembers_names (config : Config) {fields : List Field} (all : ∀ field, field ∈ fields) :
    ofMembers (fields.map fun field => (field.name, config.get field)) = .ok config := by
  set changes := fields.map fun field => (field, config.get field) with same
  have last (field : Field) : lastChange? field changes = some (config.get field) :=
    lastChange?_map _ (all field)
  have listed : ∀ field ∈ ListField.all,
      field.items ((default.overlayScalars changes).valueOf changes field) =
        .ok (config.list field) := by
    intro field _
    rw [valueOf, last, Option.getD_some]
    rfl
  rw [ofMembers, changesOfKeys_names, ok_bind, ← same, overlay, overlayLists_ok _ listed]
  simp only [overlayScalars, last, ListField.mem_all, if_true, Option.getD_some]
  rfl

/-- A configuration is read back from its document. -/
theorem ofDocument_inOrder (simple : config.IsSimple) :
    ofDocument config.toValue.inOrder = .ok config := by
  have members : Value.membersInOrder (Field.all.map fun field => (field.name, config.get field)) =
      Field.all.map fun field => (field.name, config.get field) := by
    rw [Value.membersInOrder_eq, List.map_map]
    exact List.map_congr_left fun field _ => by simp [simple.inOrder_get]
  -- Sorting the members by key is sorting the fields by name.
  have sorted : Json.sortByKey (Field.all.map fun field => (field.name, config.get field)) =
      (Field.all.mergeSort fun first second => decide (first.name ≤ second.name)).map
        fun field => (field.name, config.get field) := by
    rw [Json.sortByKey, ← List.map_mergeSort]
    exact fun _ _ _ _ => rfl
  rw [toValue, Value.inOrder, members, sorted, ofDocument]
  exact ofMembers_names config fun field =>
    (List.mergeSort_perm _ _).mem_iff.mpr (Field.mem_all field)

end Config

end Patternwright
