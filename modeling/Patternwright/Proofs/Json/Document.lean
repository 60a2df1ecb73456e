import Mathlib.Data.List.Forall2
import Patternwright.Proofs.Json.Parts
import Patternwright.Proofs.Json.Reading
import Patternwright.Proofs.Number.Numeral
import Patternwright.Proofs.Text.Line
import Patternwright.Proofs.Value.Members

/-!
# Documents

A document that was written for a value is read back as that value, except that the members of every
object come in the order of their keys. This holds for values without fractional numbers whose
integers are short enough for a numeral and whose objects have every key once.

What is written spells the value: the line breaks before parts and brackets are blanks around them.

## Main definitions

* `Value.IsPortable` — the values that documents carry
* `Value.inOrder` — a value with the members of its objects in order

## Main results

* `Json.spellsShort_writeAt` — what is written at any level spells the value
* `Json.read_write` — a document is read back
* `Json.isShown_of_mem_writeAt` — a document is printable ASCII on lines
-/

namespace Patternwright

open Regex (IsShort isDigit_of_mem_toDigits)

namespace Value

/-- A value without fractional numbers, whose integers have no more digits than a numeral and whose
objects have every key once. -/
inductive IsPortable : Value → Prop
  | null : IsPortable .null
  | bool (b : Bool) : IsPortable (.bool b)
  | int {n : Int} (short : IsShort n) : IsPortable (.int n)
  | text (s : String) : IsPortable (.text s)
  | list {items : List Value} (each : ∀ v ∈ items, IsPortable v) : IsPortable (.list items)
  | object {members : List (String × Value)} (keys : (members.map Prod.fst).Nodup)
      (each : ∀ member ∈ members, IsPortable member.2) : IsPortable (.object members)

mutual

/-- A value with the members of all objects in it in the order of their keys. -/
def inOrder : Value → Value
  | list items => list (itemsInOrder items)
  | object members => object (Json.sortByKey (membersInOrder members))
  | v => v

/-- Items, each in order. -/
def itemsInOrder : List Value → List Value
  | [] => []
  | v :: items => v.inOrder :: itemsInOrder items

/-- Members where they are, the value of each in order. -/
def membersInOrder : List (String × Value) → List (String × Value)
  | [] => []
  | (key, v) :: members => (key, v.inOrder) :: membersInOrder members

end

theorem itemsInOrder_eq (items : List Value) : itemsInOrder items = items.map inOrder := by
  induction items with
  | nil => rfl
  | cons v items ih => rw [itemsInOrder, ih, List.map_cons]

theorem membersInOrder_eq (members : List (String × Value)) :
    membersInOrder members = members.map fun member => (member.1, member.2.inOrder) := by
  induction members with
  | nil => rfl
  | cons member members ih => rw [membersInOrder, ih, List.map_cons]

theorem areWritable_of_forall {items : List Value} (each : ∀ v ∈ items, v.isWritable = true) :
    areWritable items = true := by
  induction items with
  | nil => rfl
  | cons v items ih =>
    obtain ⟨first, later⟩ := List.forall_mem_cons.mp each
    rw [areWritable, first, ih later, Bool.and_self]

theorem membersWritable_of_forall {members : List (String × Value)}
    (each : ∀ member ∈ members, member.2.isWritable = true) : membersWritable members = true := by
  induction members with
  | nil => rfl
  | cons member members ih =>
    obtain ⟨first, later⟩ := List.forall_mem_cons.mp each
    rw [membersWritable, first, ih later, Bool.and_self]

/-- What documents carry can be written. -/
theorem IsPortable.isWritable {v : Value} (portable : v.IsPortable) : v.isWritable = true := by
  induction portable with
  | int short => exact (Numeral.isWritable_iff_isShort _).mpr short
  | list _ ih => exact areWritable_of_forall ih
  | object _ _ ih => exact membersWritable_of_forall ih
  | _ => rfl

end Value

namespace Json

/-! ### Layout -/

theorem sortByKey_perm {α : Type} (members : List (String × α)) :
    (sortByKey members).Perm members := List.mergeSort_perm members _

theorem sortByKey_map {α β : Type} (f : α → β) (members : List (String × α)) :
    sortByKey (members.map fun member => (member.1, f member.2)) =
      (sortByKey members).map fun member => (member.1, f member.2) := by
  rw [sortByKey, sortByKey, ← List.map_mergeSort]
  exact fun _ _ _ _ => rfl

theorem writeItems_eq (level : Nat) (items : List Value) :
    writeItems level items = items.map (writeAt level) := by
  induction items with
  | nil => rfl
  | cons v items ih => rw [writeItems, ih, List.map_cons]

theorem writeMembers_eq (level : Nat) (members : List (String × Value)) :
    writeMembers level members = members.map fun member => (member.1, writeAt level member.2) := by
  induction members with
  | nil => rfl
  | cons member members ih => rw [writeMembers, ih, List.map_cons]

/-- The text of a member. -/
def memberChars (level : Nat) (member : String × Value) : List Char :=
  quoteChars member.1 ++ ':' :: ' ' :: writeAt level member.2

theorem writeAt_list (level : Nat) (items : List Value) :
    writeAt level (.list items) = enclose '[' ']' level (items.map (writeAt (level + 1))) := by
  rw [writeAt, writeItems_eq]

theorem writeAt_object (level : Nat) (members : List (String × Value)) :
    writeAt level (.object members) =
      enclose '{' '}' level ((sortByKey members).map (memberChars (level + 1))) := by
  rw [writeAt, writeMembers_eq, sortByKey_map, List.map_map]
  rfl

theorem isGap_newline (level : Nat) : IsGap (newline level) := by
  intro c member
  rcases List.mem_cons.mp member with rfl | member
  · rfl
  · obtain rfl := List.eq_of_mem_replicate member
    rfl

theorem enclose_of_ne_nil {parts : List (List Char)} (some' : parts ≠ []) (opening closing : Char)
    (level : Nat) :
    enclose opening closing level parts =
      opening :: (newline (level + 1) ++
        (List.intercalate (',' :: newline (level + 1)) parts ++ (newline level ++ [closing]))) := by
  cases parts with
  | nil => exact absurd rfl some'
  | cons part parts => simp [enclose]

/-- Parts on lines of their own begin with the first one and a comma, if there are more. -/
theorem lines_cons_cons (level : Nat) (first second : List Char) (parts : List (List Char)) :
    newline (level + 1) ++
        (List.intercalate (',' :: newline (level + 1)) (first :: second :: parts) ++ newline level) =
      (newline (level + 1) ++ first) ++ ',' :: (newline (level + 1) ++
        (List.intercalate (',' :: newline (level + 1)) (second :: parts) ++ newline level)) := by
  rw [List.intercalate_cons_cons]
  simp

/-! ### Values -/

/-- Items on lines of their own. -/
theorem spellsShort_items (level : Nat) {parts : List (List Char)} {values : List Value}
    (each : List.Forall₂ (fun part v => SpellsShort part (.value v)) parts values) :
    parts ≠ [] → SpellsShort (newline (level + 1) ++
      (List.intercalate (',' :: newline (level + 1)) parts ++ newline level)) (.items values) := by
  induction each with
  | nil => exact fun none' => absurd rfl none'
  | @cons part v parts values first later ih =>
    intro _
    obtain ⟨sizes, spells, short⟩ := first
    cases later with
    | nil =>
      rw [List.intercalate_singleton]
      exact ⟨_, .lastItem (.item (isGap_newline _) spells (isGap_newline _)), short⟩
    | @cons second next parts values again later =>
      obtain ⟨more, spells', short'⟩ := ih (List.cons_ne_nil _ _)
      rw [lines_cons_cons]
      -- The line break behind the comma belongs to the next item.
      have item := Spells.item (isGap_newline (level + 1)) spells isGap_nil
      rw [List.append_nil] at item
      exact ⟨_, .moreItems item spells', List.forall_mem_append.mpr ⟨short, short'⟩⟩

/-- A member is spelled with a blank before its value, and perhaps blanks behind. -/
theorem spells_memberChars {before after : List Char} (gap : IsGap before) (gap' : IsGap after)
    {level : Nat} (key : String) {v value : Value} {sizes : List Nat}
    (spells : Spells (writeAt level v) (.value value) sizes) :
    Spells (before ++ (memberChars level (key, v) ++ after)) (.member (key, value)) sizes := by
  have blank : IsGap [' '] := by simp [IsGap, isGap]
  have item := Spells.item blank spells gap'
  have member := Spells.member gap (spellsChars_flatMap key.toList) isGap_nil item
  simpa [memberChars, quoteChars] using member

/-- Members on lines of their own. -/
theorem spellsShort_members (level : Nat) {members values : List (String × Value)}
    (each : List.Forall₂ (fun member value => member.1 = value.1 ∧
      SpellsShort (writeAt (level + 1) member.2) (.value value.2)) members values) :
    members ≠ [] → SpellsShort (newline (level + 1) ++
      (List.intercalate (',' :: newline (level + 1)) (members.map (memberChars (level + 1))) ++
        newline level)) (.members values) := by
  induction each with
  | nil => exact fun none' => absurd rfl none'
  | @cons member value members values first later ih =>
    intro _
    obtain ⟨key, v⟩ := member
    obtain ⟨_, value⟩ := value
    obtain ⟨rfl, sizes, spells, short⟩ := first
    cases later with
    | nil =>
      rw [List.map_singleton, List.intercalate_singleton]
      have member := spells_memberChars (isGap_newline (level + 1)) (isGap_newline level) key spells
      exact ⟨_, .lastMember member, short⟩
    | @cons second next members values again later =>
      obtain ⟨more, spells', short'⟩ := ih (List.cons_ne_nil _ _)
      rw [List.map_cons, List.map_cons, lines_cons_cons]
      have member := spells_memberChars (isGap_newline (level + 1)) isGap_nil key spells
      rw [List.append_nil] at member
      exact ⟨_, .moreMembers member spells', List.forall_mem_append.mpr ⟨short, short'⟩⟩

/-- What is written for items that are spelled spells their list. -/
theorem spellsShort_list {level : Nat} {items : List Value}
    (each : ∀ v ∈ items, SpellsShort (writeAt (level + 1) v) (.value v.inOrder)) :
    SpellsShort (writeAt level (.list items)) (.value (Value.inOrder (.list items))) := by
  rw [writeAt_list, Value.inOrder, Value.itemsInOrder_eq]
  by_cases none' : items = []
  · subst none'
    exact ⟨_, .list (.noItems isGap_nil), by simp⟩
  · have all : List.Forall₂ (fun part v => SpellsShort part (.value v))
        (items.map (writeAt (level + 1))) (items.map Value.inOrder) := by
      rw [List.forall₂_map_left_iff, List.forall₂_map_right_iff, List.forall₂_same]
      exact each
    have some' : items.map (writeAt (level + 1)) ≠ [] := by simpa using none'
    obtain ⟨sizes, spells, short⟩ := spellsShort_items level all some'
    rw [enclose_of_ne_nil some']
    exact ⟨sizes, by simpa using Spells.list spells, short⟩

/-- What is written for members that are spelled spells their object. -/
theorem spellsShort_object {level : Nat} {members : List (String × Value)}
    (keys : (members.map Prod.fst).Nodup)
    (each : ∀ member ∈ members,
      SpellsShort (writeAt (level + 1) member.2) (.value member.2.inOrder)) :
    SpellsShort (writeAt level (.object members)) (.value (Value.inOrder (.object members))) := by
  rw [writeAt_object, Value.inOrder, Value.membersInOrder_eq, sortByKey_map]
  have perm := sortByKey_perm members
  have nodup : (((sortByKey members).map fun member =>
      (member.1, member.2.inOrder)).map Prod.fst).Nodup := by
    rw [List.map_map]
    exact ((perm.map Prod.fst).nodup_iff).mpr keys
  replace each : ∀ member ∈ sortByKey members,
      SpellsShort (writeAt (level + 1) member.2) (.value member.2.inOrder) :=
    fun member found => each member (perm.subset found)
  rw [← Value.ofMembers_of_nodup nodup]
  generalize sortByKey members = members at each
  by_cases none' : members = []
  · subst none'
    exact ⟨_, .object (.noMembers isGap_nil), by simp⟩
  · have all : List.Forall₂ (fun member value => member.1 = value.1 ∧
        SpellsShort (writeAt (level + 1) member.2) (.value value.2)) members
        (members.map fun member => (member.1, member.2.inOrder)) := by
      rw [List.forall₂_map_right_iff, List.forall₂_same]
      exact fun member found => ⟨rfl, each member found⟩
    obtain ⟨sizes, spells, short⟩ := spellsShort_members level all none'
    rw [enclose_of_ne_nil (by simpa using none')]
    exact ⟨sizes, by simpa using Spells.object spells, short⟩

/-- What is written for a value at any level spells it. -/
theorem spellsShort_writeAt {v : Value} (portable : v.IsPortable) :
    ∀ level, SpellsShort (writeAt level v) (.value v.inOrder) := by
  induction portable with
  | null => exact fun _ => ⟨[], .word (by simp [words] : ("null", Value.null) ∈ words), by simp⟩
  | bool b =>
    cases b
    · exact fun _ => ⟨[], .word (by simp [words] : ("false", Value.bool false) ∈ words), by simp⟩
    · exact fun _ => ⟨[], .word (by simp [words] : ("true", Value.bool true) ∈ words), by simp⟩
  | @int n short =>
    have length : (Nat.toDigits 10 n.natAbs).length ≤ Numeral.digitLimit :=
      (Nat.length_toDigits_le_iff (by decide) (by decide)).mpr short
    exact fun _ => ⟨_, .number (spellsNumber_intChars n), by simpa using length⟩
  | text s =>
    have spells := Spells.text (spellsChars_flatMap s.toList)
    rw [String.ofList_toList] at spells
    exact fun _ => ⟨[], spells, by simp⟩
  | list each ih => exact fun level => spellsShort_list fun v member => ih v member (level + 1)
  | object keys each ih =>
    exact fun level => spellsShort_object keys fun member found => ih member found (level + 1)

/-! ### Documents -/

/-- A character that documents are made of: a line feed, or one of ASCII that is shown. -/
def IsShown (c : Char) : Prop := c = '\n' ∨ ' ' ≤ c ∧ c ≤ '~'

instance (c : Char) : Decidable (IsShown c) := inferInstanceAs (Decidable (_ ∨ _))

/-- All characters of a text are shown if the test of each says so. -/
theorem isShown_of_all {text : List Char} (all : text.all (fun c => decide (IsShown c)) = true) :
    ∀ c ∈ text, IsShown c :=
  fun c member => of_decide_eq_true (List.all_eq_true.mp all c member)

theorem isShown_of_isDigit {c : Char} (digit : c.isDigit = true) : IsShown c := by
  have range : 48 ≤ c.toNat ∧ c.toNat ≤ 57 := by
    simpa [Char.isDigit, UInt32.le_iff_toNat_le] using digit
  refine .inr ⟨?_, ?_⟩ <;> rw [Char.le_def, UInt32.le_iff_toNat_le]
  · exact le_trans (by decide) range.1
  · exact le_trans range.2 (by decide)

theorem isShown_of_mem_hex {width n : Nat} {c : Char} (member : c ∈ Text.hex width n) :
    IsShown c := by
  have digits : ∀ digit < 16, IsShown digit.digitChar := by decide
  induction width generalizing n with
  | zero => cases member
  | succ width ih =>
    rcases List.mem_append.mp member with member | member
    · exact ih member
    · obtain rfl := List.mem_singleton.mp member
      exact digits _ (Nat.mod_lt n (by decide))

theorem isShown_of_mem_codeEscape {code : Nat} {c : Char} (member : c ∈ codeEscape code) :
    IsShown c := by
  rcases List.mem_cons.mp member with rfl | member
  · decide
  rcases List.mem_cons.mp member with rfl | member
  · decide
  · exact isShown_of_mem_hex member

theorem isShown_of_mem_quoteChar {c d : Char} (member : d ∈ quoteChar c) : IsShown d := by
  unfold quoteChar at member
  split at member
  · next quote =>
    rcases quote with rfl | rfl <;> exact isShown_of_all (by decide) d member
  iterate 5
    split at member
    · exact isShown_of_all (by decide) d member
  split at member
  · next shown =>
    obtain rfl := List.mem_singleton.mp member
    exact .inr shown
  split at member
  · exact isShown_of_mem_codeEscape member
  · rcases List.mem_append.mp member with member | member
    · exact isShown_of_mem_codeEscape member
    · exact isShown_of_mem_codeEscape member

theorem isShown_of_mem_quoteChars {text : String} {c : Char} (member : c ∈ quoteChars text) :
    IsShown c := by
  simp only [quoteChars, List.mem_cons, List.mem_append, List.mem_flatMap, List.not_mem_nil,
    or_false] at member
  rcases member with rfl | ⟨d, _, member⟩ | rfl
  · decide
  · exact isShown_of_mem_quoteChar member
  · decide

theorem isShown_of_mem_newline {level : Nat} {c : Char} (member : c ∈ newline level) :
    IsShown c := by
  rcases List.mem_cons.mp member with rfl | member
  · decide
  · obtain rfl := List.eq_of_mem_replicate member
    decide

theorem isShown_of_mem_enclose {opening closing : Char} (brackets : IsShown opening ∧ IsShown closing)
    {level : Nat} {parts : List (List Char)} (each : ∀ part ∈ parts, ∀ c ∈ part, IsShown c) {c : Char}
    (member : c ∈ enclose opening closing level parts) : IsShown c := by
  by_cases none' : parts = []
  · subst none'
    have either : c = opening ∨ c = closing := by simpa [enclose] using member
    rcases either with rfl | rfl
    · exact brackets.1
    · exact brackets.2
  rw [enclose_of_ne_nil none'] at member
  simp only [List.mem_cons, List.mem_append, List.not_mem_nil, or_false] at member
  rcases member with rfl | member | member | member | rfl
  · exact brackets.1
  · exact isShown_of_mem_newline member
  · rcases Text.mem_or_exists_of_mem_intercalate member with member | ⟨part, found, member⟩
    · rcases List.mem_cons.mp member with rfl | member
      · decide
      · exact isShown_of_mem_newline member
    · exact each part found c member
  · exact isShown_of_mem_newline member
  · exact brackets.2

/-- A document is ASCII that is shown, on lines. -/
theorem isShown_of_mem_writeAt {v : Value} (portable : v.IsPortable) :
    ∀ level, ∀ c ∈ writeAt level v, IsShown c := by
  induction portable with
  | null => exact fun _ => isShown_of_all rfl
  | bool b => cases b <;> exact fun _ => isShown_of_all rfl
  | @int n short =>
    clear short
    intro _ c member
    have digit {c : Char} (member : c ∈ Nat.toDigits 10 n.natAbs) : IsShown c :=
      isShown_of_isDigit (isDigit_of_mem_toDigits member)
    by_cases negative : n < 0
    · rw [writeAt, intChars, if_pos negative] at member
      rcases List.mem_cons.mp member with rfl | member
      · decide
      · exact digit member
    · rw [writeAt, intChars, if_neg negative] at member
      exact digit member
  | text s => exact fun _ c => isShown_of_mem_quoteChars
  | list each ih =>
    intro level c member
    rw [writeAt_list] at member
    refine isShown_of_mem_enclose (by decide) (fun part found => ?_) member
    obtain ⟨v, item, rfl⟩ := List.mem_map.mp found
    exact ih v item (level + 1)
  | object keys each ih =>
    intro level c member
    rw [writeAt_object] at member
    refine isShown_of_mem_enclose (by decide) (fun part found d member => ?_) member
    obtain ⟨pair, item, rfl⟩ := List.mem_map.mp found
    simp only [memberChars, List.mem_append, List.mem_cons] at member
    rcases member with member | rfl | rfl | member
    · exact isShown_of_mem_quoteChars member
    · decide
    · decide
    · exact ih pair ((sortByKey_perm _).mem_iff.mp item) (level + 1) d member

/-- A document that was written is read back, also with line feeds behind it. -/
theorem read_write {v : Value} (portable : v.IsPortable) {rest : List Char}
    (feeds : ∀ c ∈ rest, c = '\n') : read ((write v).toList ++ rest) = .ok v.inOrder := by
  obtain ⟨sizes, spells, short⟩ := spellsShort_writeAt portable 0
  have blank : IsGap rest := fun c member => by rw [feeds c member]; rfl
  rw [write, String.toList_ofList]
  exact (read_of_spells (.item isGap_nil spells blank)).eq_ok short

end Json
end Patternwright
