import Patternwright.Proofs.Json.Spelling

/-!
# What is spelled is read

Whatever text spells a value, the value is read from it, and what comes behind is left. The proof
follows the grammar: a value, an item or a member leaves what comes behind it, and all that stands
between two brackets is read up to the closing one. Only an integer with too many digits stops the
reader.

The depth and the fuel of the readers do not show: a text is longer than any part of it, and every
item takes at least one character.

## Main definitions

* `Json.Part.IsRead` — what reading means for a part of a document

## Main results

* `Json.isRead_of_spells` — parts are read as what they spell
* `Json.read_of_spells`, `Json.read_of_isObject` — so are documents
-/

namespace Patternwright.Json

open Regex (ne_of_isDigit)

variable {text body rest : List Char} {v : Value} {items : List Value} {m : String × Value}
  {members : List (String × Value)} {sizes : List Nat}

/-! ### Blanks -/

theorem skipGap_of_not_isGap {c : Char} (plain : isGap c = false) (rest : List Char) :
    skipGap (c :: rest) = c :: rest := List.dropWhile_cons_of_neg (by simp [plain])

theorem skipGap_append {gap : List Char} (blank : IsGap gap) (rest : List Char) :
    skipGap (gap ++ rest) = skipGap rest := List.dropWhile_append_of_pos blank

theorem isGap_of_isDigit {c : Char} (digit : c.isDigit = true) : isGap c = false := by
  have other {d : Char} (letter : d.isDigit = false) : c ≠ d := ne_of_isDigit digit letter
  simp [isGap, other (d := ' ') rfl, other (d := '\t') rfl, other (d := '\n') rfl,
    other (d := '\r') rfl]

/-- What comes behind an item or a member: the end, a comma, or the end of a list or an object. -/
def Closes (rest : List Char) : Prop := ∀ c ∈ rest.head?, c = ',' ∨ c = ']' ∨ c = '\x7d'

theorem closes_cons {c : Char} (closing : c = ',' ∨ c = ']' ∨ c = '\x7d') (rest : List Char) :
    Closes (c :: rest) := by
  rintro d ⟨⟩
  exact closing

theorem Closes.skipGap (closes : Closes rest) : skipGap rest = rest := by
  cases rest with
  | nil => rfl
  | cons c rest => obtain rfl | rfl | rfl := closes c rfl <;> exact skipGap_of_not_isGap rfl rest

theorem Closes.ends_append {gap : List Char} (blank : IsGap gap) (closes : Closes rest) :
    Ends (gap ++ rest) := by
  intro c head
  cases gap with
  | nil => exact .inr (closes c head)
  | cons d gap =>
    obtain rfl : d = c := by simpa using head
    exact .inl (blank d List.mem_cons_self)

/-- The first character that is no blank. -/
def Begins (c : Char) (text : List Char) : Prop :=
  isGap c = false ∧ ∃ before more, IsGap before ∧ text = before ++ c :: more

theorem Begins.append {c : Char} (begins : Begins c text) (more : List Char) :
    Begins c (text ++ more) := by
  obtain ⟨plain, before, later, blank, rfl⟩ := begins
  exact ⟨plain, before, later ++ more, blank, by simp⟩

theorem Begins.skipGap {c : Char} (begins : Begins c text) :
    ∃ more, ∀ rest, skipGap (text ++ rest) = c :: (more ++ rest) := by
  obtain ⟨plain, before, more, blank, rfl⟩ := begins
  refine ⟨more, fun rest => ?_⟩
  rw [List.append_assoc, skipGap_append blank, List.cons_append, skipGap_of_not_isGap plain]

/-- A part that begins takes off the fuel for its first character. -/
theorem Begins.exists_less {c d : Char} {later : List Char} {fuel : Nat} (begins : Begins c text)
    (enough : (Json.skipGap (text ++ d :: later)).length ≤ fuel) :
    ∃ less, fuel = less + 1 ∧ (Json.skipGap later).length ≤ less := by
  obtain ⟨more, start⟩ := begins.skipGap
  have shorter : (Json.skipGap later).length ≤ later.length := (List.dropWhile_sublist _).length_le
  rw [start] at enough
  simp only [List.length_cons, List.length_append] at enough
  exact ⟨fuel - 1, by omega, by omega⟩

/-! ### First characters -/

/-- A value begins neither with a blank nor like the end of a list. -/
theorem Spells.exists_cons (spells : Spells text (.value v) sizes) :
    ∃ c more, text = c :: more ∧ isGap c = false ∧ c ≠ ']' ∧ c ≠ '\uFEFF' := by
  cases spells with
  | word member =>
    simp only [words, List.mem_cons, List.not_mem_nil, or_false] at member
    rcases member with rfl | rfl | rfl | rfl | rfl | rfl <;>
      exact ⟨_, _, rfl, rfl, by decide, by decide⟩
  | number number =>
    obtain ⟨negative, c, more, rfl, digit⟩ := number.exists_digit
    cases negative with
    | true => exact ⟨'-', _, rfl, rfl, by decide, by decide⟩
    | false =>
      exact ⟨c, more, rfl, isGap_of_isDigit digit, ne_of_isDigit digit rfl,
        ne_of_isDigit digit rfl⟩
  | text chars => exact ⟨_, _, rfl, rfl, by decide, by decide⟩
  | list inside => exact ⟨_, _, rfl, rfl, by decide, by decide⟩
  | object inside => exact ⟨_, _, rfl, rfl, by decide, by decide⟩

/-- A value takes one off the depth. -/
theorem Spells.exists_less {depth : Nat} (spells : Spells text (.value v) sizes)
    (enough : text.length ≤ depth) : ∃ less, depth = less + 1 := by
  obtain ⟨c, more, rfl, -⟩ := spells.exists_cons
  exact Nat.exists_eq_add_one.mpr (Nat.lt_of_lt_of_le (Nat.succ_pos _) enough)

theorem Spells.item_begins (spells : Spells text (.item v) sizes) :
    ∃ c, Begins c text ∧ c ≠ ']' := by
  cases spells with
  | @item before _ after _ _ gap value gap' =>
    obtain ⟨c, more, rfl, plain, other, -⟩ := value.exists_cons
    exact ⟨c, ⟨plain, before, more ++ after, gap, rfl⟩, other⟩

theorem Spells.items_begins (spells : Spells text (.items items) sizes) (some' : items ≠ []) :
    ∃ c, Begins c text ∧ c ≠ ']' := by
  cases spells with
  | noItems => exact absurd rfl some'
  | lastItem item => exact item.item_begins
  | moreItems item later =>
    obtain ⟨c, begins, other⟩ := item.item_begins
    exact ⟨c, begins.append _, other⟩

theorem Spells.member_begins (spells : Spells text (.member m) sizes) : Begins '"' text := by
  cases spells with
  | member gap chars gap' value => exact ⟨rfl, _, _, gap, rfl⟩

theorem Spells.members_begins (spells : Spells text (.members members) sizes)
    (some' : members ≠ []) : Begins '"' text := by
  cases spells with
  | noMembers => exact absurd rfl some'
  | lastMember member => exact member.member_begins
  | moreMembers member later => exact member.member_begins.append _

/-! ### Parts -/

/-- What reading gives for a part, whatever comes behind it: values and items leave what is behind
them, items perhaps with blanks before that, and lists and objects are read to their end. A member
is either the last one, or there are more behind the comma after it. -/
def Part.IsRead (text : List Char) (sizes : List Nat) : Part → Prop
  | .value v => ∀ depth rest, text.length ≤ depth → Ends rest →
    Reaches sizes (readValue depth (text ++ rest)) (v, rest)
  | .item v => ∀ depth rest, text.length ≤ depth → Closes rest →
    ∃ left, skipGap left = rest ∧
      Reaches sizes (readValue depth (skipGap (text ++ rest))) (v, left)
  | .items items => items ≠ [] → ∀ depth fuel rest, text.length ≤ depth →
    (skipGap (text ++ ']' :: rest)).length ≤ fuel →
    Reaches sizes (readItems (readValue depth) fuel (skipGap (text ++ ']' :: rest))) (items, rest)
  | .member m => ∀ depth fuel, text.length ≤ depth →
    (∀ rest, Reaches sizes
      (readMembers (readValue depth) (fuel + 1) (skipGap (text ++ '\x7d' :: rest))) ([m], rest)) ∧
    ∀ behind members rest more,
      Reaches more (readMembers (readValue depth) fuel (skipGap behind)) (members, rest) →
      Reaches (sizes ++ more)
        (readMembers (readValue depth) (fuel + 1) (skipGap (text ++ ',' :: behind)))
        (m :: members, rest)
  | .members members => members ≠ [] → ∀ depth fuel rest, text.length ≤ depth →
    (skipGap (text ++ '\x7d' :: rest)).length ≤ fuel →
    Reaches sizes (readMembers (readValue depth) fuel (skipGap (text ++ '\x7d' :: rest)))
      (members, rest)

/-- What begins like no text, list or object is read as a word or a number. -/
theorem readValue_plain (depth : Nat) {c : Char} (quote : c ≠ '"') (bracket : c ≠ '[')
    (brace : c ≠ '\x7b') (more : List Char) :
    readValue (depth + 1) (c :: more) = readPlain (c :: more) := by
  unfold readValue
  split <;> simp_all

/-- After the bracket of a list that does not close at once come its items. -/
theorem readValue_bracket (depth : Nat) {c : Char} {rest more : List Char}
    (begins : skipGap rest = c :: more) (other : c ≠ ']') :
    readValue (depth + 1) ('[' :: rest) = (do
      let (items, rest) ← readItems (readValue depth) (more.length + 2) (c :: more)
      return (.list items, rest)) := by
  simp [readValue, begins, other]

/-- After the brace of an object that does not close at once come its members. -/
theorem readValue_brace (depth : Nat) {c : Char} {rest more : List Char}
    (begins : skipGap rest = c :: more) (other : c ≠ '\x7d') :
    readValue (depth + 1) ('\x7b' :: rest) = (do
      let (members, rest) ← readMembers (readValue depth) (more.length + 2) (c :: more)
      return (Value.ofMembers members, rest)) := by
  simp [readValue, begins, other]

theorem Spells.isRead_list (inside : Spells body (.items items) sizes)
    (read : (Part.items items).IsRead body sizes) :
    (Part.value (.list items)).IsRead ('[' :: (body ++ [']'])) sizes := by
  intro depth rest enough _
  obtain ⟨depth, rfl⟩ := (Spells.list inside).exists_less enough
  rw [List.cons_append, List.append_assoc]
  by_cases none' : items = []
  · subst none'
    cases inside with
    | noItems blank =>
      refine reaches_nil.mpr ?_
      simp [readValue, skipGap_append blank, skipGap_of_not_isGap (show isGap ']' = false by rfl)]
  · -- The fuel is the length of what is left after the blanks, and that begins with an item.
    obtain ⟨c, begins, other⟩ := inside.items_begins none'
    obtain ⟨more, skip⟩ := begins.skipGap
    have whole := read none' depth ((more ++ ']' :: rest).length + 2) rest
      (by simp at enough; omega) (by rw [skip]; simp)
    rw [skip] at whole
    rw [readValue_bracket depth (skip _) other]
    exact whole.bind_ok rfl

theorem Spells.isRead_object (inside : Spells body (.members members) sizes)
    (read : (Part.members members).IsRead body sizes) :
    (Part.value (.ofMembers members)).IsRead ('\x7b' :: (body ++ ['\x7d'])) sizes := by
  intro depth rest enough _
  obtain ⟨depth, rfl⟩ := (Spells.object inside).exists_less enough
  rw [List.cons_append, List.append_assoc]
  by_cases none' : members = []
  · subst none'
    cases inside with
    | noMembers blank =>
      refine reaches_nil.mpr ?_
      simp [readValue, skipGap_append blank, Value.ofMembers,
        skipGap_of_not_isGap (show isGap '\x7d' = false by rfl)]
  · obtain ⟨more, skip⟩ := (inside.members_begins none').skipGap
    have whole := read none' depth ((more ++ '\x7d' :: rest).length + 2) rest
      (by simp at enough; omega) (by rw [skip]; simp)
    rw [skip] at whole
    rw [readValue_brace depth (skip _) (by decide)]
    exact whole.bind_ok rfl

theorem Spells.isRead_item {before after : List Char} (gap : IsGap before)
    (value : Spells text (.value v) sizes) (gap' : IsGap after)
    (read : (Part.value v).IsRead text sizes) :
    (Part.item v).IsRead (before ++ (text ++ after)) sizes := by
  intro depth rest enough closes
  -- The reader skips the blanks before the value and leaves those behind it.
  obtain ⟨c, more, rfl, plain, -⟩ := value.exists_cons
  refine ⟨after ++ rest, by rw [skipGap_append gap', closes.skipGap], ?_⟩
  have whole := read depth (after ++ rest) (by simp at enough ⊢; omega) (closes.ends_append gap')
  rw [List.append_assoc, skipGap_append gap, List.append_assoc, List.cons_append,
    skipGap_of_not_isGap plain]
  exact whole

theorem isRead_member {before key after : List Char} (gap : IsGap before)
    (chars : SpellsChars body key) (gap' : IsGap after) (read : (Part.item v).IsRead text sizes) :
    (Part.member (String.ofList key, v)).IsRead
      (before ++ '"' :: (body ++ '"' :: (after ++ ':' :: text))) sizes := by
  intro depth fuel enough
  have within : text.length ≤ depth := by simp at enough; omega
  -- The key, the colon and the value are read up to what is behind the member.
  have start (rest : List Char) :
      skipGap ((before ++ '"' :: (body ++ '"' :: (after ++ ':' :: text))) ++ rest) =
        '"' :: (body ++ '"' :: (after ++ ':' :: (text ++ rest))) := by
    rw [List.append_assoc, skipGap_append gap, List.cons_append, skipGap_of_not_isGap rfl]
    simp
  have colon (rest : List Char) :
      skipGap (after ++ ':' :: (text ++ rest)) = ':' :: (text ++ rest) := by
    rw [skipGap_append gap', skipGap_of_not_isGap rfl]
  constructor
  · intro rest
    obtain ⟨left, skip, item⟩ := read depth ('\x7d' :: rest) within
      (closes_cons (.inr (.inr rfl)) rest)
    rw [start, readMembers, readText_of_spells chars, ok_bind]
    simp only [colon]
    refine item.bind_ok ?_
    simp only [skip]
    rfl
  · intro behind members rest more later
    obtain ⟨left, skip, item⟩ := read depth (',' :: behind) within
      (closes_cons (.inl rfl) behind)
    rw [start, readMembers, readText_of_spells chars, ok_bind]
    simp only [colon]
    refine item.bind ?_
    simp only [skip]
    exact later.bind_ok rfl

theorem isRead_number (number : SpellsNumber text v sizes) :
    (Part.value v).IsRead text sizes := by
  intro depth rest enough ends
  have read := readPlain_of_spells number ends
  obtain ⟨depth, rfl⟩ := (Spells.number number).exists_less enough
  obtain ⟨negative, c, more, rfl, digit⟩ := number.exists_digit
  cases negative with
  | true => exact read
  | false =>
    have plain := readValue_plain depth (ne_of_isDigit digit rfl) (ne_of_isDigit digit rfl)
      (ne_of_isDigit digit rfl) (more ++ rest)
    exact plain.symm ▸ read

/-- Parts of a document are read as what they spell. -/
theorem isRead_of_spells {part : Part} (spells : Spells text part sizes) :
    part.IsRead text sizes := by
  -- One case for each rule of the grammar. The texts of several items or members are read with what
  -- is behind the first one as its rest; only the last one is followed by the closing bracket.
  induction spells with
  | @word entry member =>
    intro depth rest enough _
    obtain ⟨depth, rfl⟩ := (Spells.word member).exists_less enough
    refine reaches_nil.mpr ?_
    simp only [words, List.mem_cons, List.not_mem_nil, or_false] at member
    rcases member with rfl | rfl | rfl | rfl | rfl | rfl <;> rfl
  | number number => exact isRead_number number
  | text chars =>
    intro depth rest enough _
    obtain ⟨depth, rfl⟩ := (Spells.text chars).exists_less enough
    refine reaches_nil.mpr ?_
    simp [readValue, readText_of_spells chars, pure, Except.pure]
  | list inside ih => exact inside.isRead_list ih
  | object inside ih => exact inside.isRead_object ih
  | item gap value gap' ih => exact value.isRead_item gap gap' ih
  | member gap chars gap' value ih => exact isRead_member gap chars gap' ih
  | noItems blank => exact fun some' => absurd rfl some'
  | lastItem item ih =>
    intro _ depth fuel rest enough within
    obtain ⟨left, skip, read⟩ := ih depth (']' :: rest) enough (closes_cons (.inr (.inl rfl)) rest)
    obtain ⟨c, begins, -⟩ := item.item_begins
    obtain ⟨fuel, rfl, -⟩ := begins.exists_less within
    rw [readItems]
    refine read.bind_ok ?_
    simp only [skip]
    rfl
  | moreItems item later ih ih' =>
    intro _ depth fuel rest enough within
    rw [List.length_append, List.length_cons] at enough
    rw [List.append_assoc, List.cons_append] at within ⊢
    obtain ⟨left, skip, read⟩ := ih depth _ (by omega) (closes_cons (.inl rfl) _)
    obtain ⟨c, begins, -⟩ := item.item_begins
    obtain ⟨fuel, rfl, shorter⟩ := begins.exists_less within
    rw [readItems]
    refine read.bind ?_
    simp only [skip]
    exact (ih' (by simp) depth fuel rest (by omega) shorter).bind_ok rfl
  | noMembers blank => exact fun some' => absurd rfl some'
  | lastMember member ih =>
    intro _ depth fuel rest enough within
    obtain ⟨fuel, rfl, -⟩ := member.member_begins.exists_less within
    exact (ih depth fuel enough).1 rest
  | moreMembers member later ih ih' =>
    intro _ depth fuel rest enough within
    rw [List.length_append, List.length_cons] at enough
    rw [List.append_assoc, List.cons_append] at within ⊢
    obtain ⟨fuel, rfl, shorter⟩ := member.member_begins.exists_less within
    exact (ih depth fuel (by omega)).2 _ _ rest _
      (ih' (by simp) depth fuel rest (by omega) shorter)

/-! ### Documents -/

/-- A document does not begin with a mark for the order of its bytes. -/
theorem Spells.not_marked {document : List Char} (spells : Spells document (.item v) sizes) :
    document.head? ≠ some '\uFEFF' := by
  cases spells with
  | @item before text after _ _ gap value gap' =>
    cases before with
    | nil =>
      obtain ⟨c, more, rfl, -, -, other⟩ := value.exists_cons
      simpa using other
    | cons d before =>
      have blank := gap d List.mem_cons_self
      rintro ⟨⟩
      cases blank

/-- A document is read as the value that it spells. -/
theorem read_of_spells {document : List Char} (spells : Spells document (.item v) sizes) :
    Reaches sizes (read document) v := by
  obtain ⟨left, skip, value⟩ := isRead_of_spells spells (document.length + 1) [] (by omega)
    (by rintro c ⟨⟩)
  have unmarked : document.head? ≠ some '\uFEFF' := spells.not_marked
  rw [List.append_nil] at value
  rw [read, if_neg unmarked]
  refine value.bind_ok ?_
  simp only [skip]
  rfl

theorem IsObject.spells {document : List Char} (object : IsObject document members sizes) :
    Spells document (.item (.ofMembers members)) sizes := by
  obtain ⟨before, body, after, gap, inside, gap', rfl⟩ := object
  simpa using Spells.item gap (.object inside) gap'

/-- A document is read as the object that it is. -/
theorem read_of_isObject {document : List Char} (object : IsObject document members sizes) :
    Reaches sizes (read document) (.ofMembers members) := read_of_spells object.spells

end Patternwright.Json
