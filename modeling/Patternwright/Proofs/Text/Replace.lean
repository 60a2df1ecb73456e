import Mathlib.Data.List.Find
import Mathlib.Data.List.Lattice
import Patternwright.Text.Replace

/-!
# Replacing tokens one after the other

The tokens of a table are replaced one after the other, each in all of what the ones before it have
left. A later token could be found in an earlier fragment, or across the end of one. Where no
character of a token is in another token or in a fragment, nothing of this kind happens: the result
is that of one pass from left to right, which puts a fragment wherever some token begins and copies
all other characters.

Such a pass cuts the text first. What is put for each part is up to the table, so tables with the
same tokens cut a text in the same way.

## Main definitions

* `Text.Segment`, `Text.cut` — the parts of a text, and the text cut into them
* `Text.rendered` — the text with a fragment for each token
* `Text.IsSeparate` — no character of a token is in another token or in a fragment

## Main results

* `Text.cut_map` — where a text is cut depends on the tokens only
* `Text.toList_replaceEach` — one token after the other is the same as one pass
-/

namespace Patternwright.Text

/-! ### Cutting a text -/

/-- A part of a text: a token of a table, for which its entry stands, or another character. -/
inductive Segment (α : Type) where
  | entry (value : α)
  | char (c : Char)
  deriving DecidableEq, Repr

/-- The part with something else for the entry. -/
def Segment.map {α β : Type} (change : α → β) : Segment α → Segment β
  | entry value => .entry (change value)
  | char c => .char c

variable {α β : Type}

/-- The first entry of a table whose token the text begins with. -/
def entryAt? (table : List (String × α)) (text : List Char) : Option (String × α) :=
  table.find? fun entry => entry.1.toList.isPrefixOf text

theorem entryAt?_cons (entry : String × α) (table : List (String × α)) (text : List Char) :
    entryAt? (entry :: table) text =
      if entry.1.toList <+: text then some entry else entryAt? table text := by
  rw [entryAt?, List.find?_cons]
  simp only [← List.isPrefixOf_iff_prefix]
  cases entry.1.toList.isPrefixOf text <;> rfl

/-- The text cut from left to right: at each place there is a token of the table or a character. -/
def cut (table : List (String × α)) : List Char → List (Segment α)
  | [] => []
  | c :: rest =>
    match entryAt? table (c :: rest) with
    | some entry => .entry entry.2 :: cut table (rest.drop (entry.1.length - 1))
    | none => .char c :: cut table rest
termination_by text => text.length
decreasing_by
  all_goals simp only [List.length_cons, List.length_drop]
  all_goals omega

/-- The text with the fragment of each token in its place. -/
def rendered (parts : List (Segment String)) : List Char :=
  parts.flatMap fun
    | .entry fragment => fragment.toList
    | .char c => [c]

@[simp] theorem cut_nil (table : List (String × α)) : cut table [] = [] := by rw [cut]

theorem cut_of_entryAt? {table : List (String × α)} {entry : String × α} {rest : List Char}
    (nonempty : entry.1.toList ≠ [])
    (found : entryAt? table (entry.1.toList ++ rest) = some entry) :
    cut table (entry.1.toList ++ rest) = .entry entry.2 :: cut table rest := by
  obtain ⟨c, tail, split⟩ := List.exists_cons_of_ne_nil nonempty
  have length : entry.1.length - 1 = tail.length := by simp [← String.length_toList, split]
  rw [split, List.cons_append] at found ⊢
  rw [cut, found]
  simp [length]

theorem eq_append_of_entryAt? {table : List (String × α)} {entry : String × α} {c : Char}
    {rest : List Char} (found : entryAt? table (c :: rest) = some entry)
    (nonempty : entry.1.toList ≠ []) :
    c :: rest = entry.1.toList ++ rest.drop (entry.1.length - 1) := by
  have ahead := List.find?_some found
  obtain ⟨behind, split⟩ := List.isPrefixOf_iff_prefix.mp ahead
  obtain ⟨head, tail, written⟩ := List.exists_cons_of_ne_nil nonempty
  have length : entry.1.length - 1 = tail.length := by simp [← String.length_toList, written]
  rw [written] at split ⊢
  obtain ⟨rfl, rfl⟩ := List.cons.inj split
  simp [length]

theorem cut_of_none {table : List (String × α)} {c : Char} {rest : List Char}
    (none' : entryAt? table (c :: rest) = none) :
    cut table (c :: rest) = .char c :: cut table rest := by
  rw [cut, none']

/-- The parts of a text are entries of the table and characters of the text. -/
theorem of_mem_cut {table : List (String × α)} {text : List Char} {part : Segment α} :
    part ∈ cut table text →
      (∃ entry ∈ table, part = .entry entry.2) ∨ ∃ c ∈ text, part = .char c := by
  induction text using cut.induct table with
  | case1 => simp
  | case2 c rest entry found ih =>
    intro member
    rw [cut, found] at member
    rcases List.mem_cons.mp member with rfl | later
    · exact .inl ⟨entry, List.mem_of_find?_eq_some found, rfl⟩
    · refine (ih later).imp_right ?_
      rintro ⟨d, inside, rfl⟩
      exact ⟨d, List.mem_cons_of_mem c (List.mem_of_mem_drop inside), rfl⟩
  | case3 c rest none' ih =>
    intro member
    rw [cut_of_none none'] at member
    rcases List.mem_cons.mp member with rfl | later
    · exact .inr ⟨c, List.mem_cons_self, rfl⟩
    · refine (ih later).imp_right ?_
      rintro ⟨d, inside, rfl⟩
      exact ⟨d, List.mem_cons_of_mem c inside, rfl⟩

/-- Where a text is cut depends on the tokens only. -/
theorem cut_map (change : α → β) (table : List (String × α)) (text : List Char) :
    cut (table.map (Prod.map id change)) text = (cut table text).map (Segment.map change) := by
  have entries (text : List Char) : entryAt? (table.map (Prod.map id change)) text =
      (entryAt? table text).map (Prod.map id change) := by
    rw [entryAt?, List.find?_map]
    rfl
  induction text using cut.induct table with
  | case1 => simp
  | case2 c rest entry found ih =>
    rw [cut, entries, cut, found]
    simpa [Segment.map] using ih
  | case3 c rest none' ih =>
    rw [cut_of_none none', cut_of_none (by rw [entries, none']; rfl), ih]
    rfl

/-! ### One token -/

theorem not_prefix_cons {word rest : List Char} {c : Char} (nonempty : word ≠ [])
    (absent : c ∉ word) : ¬ word <+: c :: rest := by
  obtain ⟨head, tail, rfl⟩ := List.exists_cons_of_ne_nil nonempty
  intro ahead
  obtain ⟨rfl, -⟩ := List.cons_prefix_cons.mp ahead
  exact absent List.mem_cons_self

theorem cons_not_prefix_append {word other rest : List Char} {c : Char} (nonempty : other ≠ [])
    (absent : c ∉ other) : ¬ c :: word <+: other ++ rest := by
  obtain ⟨head, tail, rfl⟩ := List.exists_cons_of_ne_nil nonempty
  intro ahead
  obtain ⟨rfl, -⟩ := List.cons_prefix_cons.mp ahead
  exact absent List.mem_cons_self

section Token

variable {token fragment : List Char} (nonempty : token ≠ [])

include nonempty

theorem replaceAll_nil : replaceAll token fragment [] = [] := by
  obtain ⟨head, tail, rfl⟩ := List.exists_cons_of_ne_nil nonempty
  rw [replaceAll, replaceToken]

theorem replaceAll_token (rest : List Char) :
    replaceAll token fragment (token ++ rest) = fragment ++ replaceAll token fragment rest := by
  obtain ⟨head, tail, rfl⟩ := List.exists_cons_of_ne_nil nonempty
  rw [replaceAll, replaceAll, List.cons_append, replaceToken]
  simp

theorem replaceAll_other {c : Char} {rest : List Char} (other : ¬ token <+: c :: rest) :
    replaceAll token fragment (c :: rest) = c :: replaceAll token fragment rest := by
  obtain ⟨head, tail, rfl⟩ := List.exists_cons_of_ne_nil nonempty
  rw [replaceAll, replaceAll, replaceToken, if_neg]
  rintro ⟨rfl, ahead⟩
  exact other (List.cons_prefix_cons.mpr ⟨rfl, List.isPrefixOf_iff_prefix.mp ahead⟩)

/-- A word that shares no character with the token is passed over. -/
theorem replaceAll_append {word : List Char} (apart : word.Disjoint token) (rest : List Char) :
    replaceAll token fragment (word ++ rest) = word ++ replaceAll token fragment rest := by
  induction word with
  | nil => rfl
  | cons c word ih =>
    obtain ⟨here, later⟩ := List.disjoint_cons_left.mp apart
    rw [List.cons_append, replaceAll_other nonempty (not_prefix_cons nonempty here), ih later]
    rfl

/-- A word that shares no character with token and fragment is at the beginning behind a replacement
where it was there before. -/
theorem prefix_replaceAll_iff (written : fragment ≠ []) (text : List Char) : ∀ word : List Char,
    word.Disjoint token → word.Disjoint fragment →
      (word <+: replaceAll token fragment text ↔ word <+: text) := by
  -- Each character of the word is the next one of the text, and no token begins there.
  induction text with
  | nil => simp [replaceAll_nil nonempty]
  | cons c rest ih =>
    rintro (_ | ⟨d, word⟩) apart outside
    · simp
    obtain ⟨here, later⟩ := List.disjoint_cons_left.mp apart
    obtain ⟨hereOutside, laterOutside⟩ := List.disjoint_cons_left.mp outside
    by_cases ahead : token <+: c :: rest
    · obtain ⟨behind, split⟩ := ahead
      rw [← split, replaceAll_token nonempty]
      exact iff_of_false (cons_not_prefix_append written hereOutside)
        (cons_not_prefix_append nonempty here)
    · rw [replaceAll_other nonempty ahead, List.cons_prefix_cons, List.cons_prefix_cons,
        ih word later laterOutside]

end Token

/-! ### One token after the other -/

/-- Lists without a common entry are found by a look at the entries of the first one. -/
instance decidableDisjoint (first second : List Char) : Decidable (first.Disjoint second) :=
  decidable_of_iff ((first.all fun c => c ∉ second) = true) (by simp [List.Disjoint])

/-- No character of a token is in another token or in a fragment. -/
structure IsSeparate (table : List (String × String)) : Prop where
  tokens : ∀ entry ∈ table, entry.1.toList ≠ []
  fragments : ∀ entry ∈ table, entry.2.toList ≠ []
  apart : table.Pairwise fun entry other => entry.1.toList.Disjoint other.1.toList
  outside : ∀ entry ∈ table, ∀ other ∈ table, entry.1.toList.Disjoint other.2.toList

variable {table : List (String × String)}

theorem IsSeparate.tail {entry : String × String} (separate : IsSeparate (entry :: table)) :
    IsSeparate table where
  tokens other member := separate.tokens other (List.mem_cons_of_mem _ member)
  fragments other member := separate.fragments other (List.mem_cons_of_mem _ member)
  apart := separate.apart.of_cons
  outside other member next later :=
    separate.outside other (List.mem_cons_of_mem _ member) next (List.mem_cons_of_mem _ later)

/-- A word that shares no character with any token is copied. -/
theorem rendered_cut_append (tokens : ∀ entry ∈ table, entry.1.toList ≠ []) {word : List Char}
    (apart : ∀ entry ∈ table, word.Disjoint entry.1.toList) (rest : List Char) :
    rendered (cut table (word ++ rest)) = word ++ rendered (cut table rest) := by
  induction word with
  | nil => rfl
  | cons c word ih =>
    have none' : entryAt? table (c :: (word ++ rest)) = none := by
      refine List.find?_eq_none.mpr fun entry member ahead => ?_
      have absent := (List.disjoint_cons_left.mp (apart entry member)).1
      exact not_prefix_cons (tokens entry member) absent (List.isPrefixOf_iff_prefix.mp ahead)
    have later := ih fun entry member => (List.disjoint_cons_left.mp (apart entry member)).2
    rw [List.cons_append, cut_of_none none']
    exact congrArg (c :: ·) later

section Step

variable {entry : String × String} (separate : IsSeparate (entry :: table))

include separate

/-- Where one token is replaced, the others stand where they have stood. -/
theorem entryAt?_replaceAll (text : List Char) :
    entryAt? table (replaceAll entry.1.toList entry.2.toList text) = entryAt? table text := by
  refine List.find?_congr fun other member => ?_
  have apart := List.rel_of_pairwise_cons separate.apart member
  have outside := separate.outside other (List.mem_cons_of_mem _ member) entry List.mem_cons_self
  rw [Bool.eq_iff_iff, List.isPrefixOf_iff_prefix, List.isPrefixOf_iff_prefix]
  exact prefix_replaceAll_iff (separate.tokens entry List.mem_cons_self)
    (separate.fragments entry List.mem_cons_self) text _ (List.disjoint_symm apart) outside

/-- To replace one token and to cut at the others is to cut at all of them. -/
theorem rendered_cut_replaceAll (text : List Char) :
    rendered (cut table (replaceAll entry.1.toList entry.2.toList text)) =
      rendered (cut (entry :: table) text) := by
  have tokens := separate.tail.tokens
  have nonempty := separate.tokens entry List.mem_cons_self
  induction text using cut.induct (entry :: table) with
  | case1 => simp [replaceAll_nil nonempty]
  | case2 c rest other found ih =>
    have member : other ∈ entry :: table := List.mem_of_find?_eq_some found
    have split := eq_append_of_entryAt? found (separate.tokens other member)
    generalize rest.drop (other.1.length - 1) = behind at split ih
    rw [split] at found ⊢
    rw [cut_of_entryAt? (separate.tokens other member) found]
    rw [entryAt?_cons] at found
    split at found
    · -- The token to be replaced leaves its fragment, in which no other token begins.
      obtain rfl := Option.some.inj found
      rw [replaceAll_token nonempty, rendered_cut_append tokens, ih]
      · rfl
      · exact fun next inside => List.disjoint_symm
          (separate.outside next (List.mem_cons_of_mem _ inside) entry List.mem_cons_self)
    · next elsewhere =>
      -- Another token is passed over, and found behind the replacement.
      have inside : other ∈ table := List.mem_of_find?_eq_some found
      have apart := List.disjoint_symm (List.rel_of_pairwise_cons separate.apart inside)
      rw [← entryAt?_replaceAll separate, replaceAll_append nonempty apart] at found
      rw [replaceAll_append nonempty apart, cut_of_entryAt? (tokens other inside) found]
      exact congrArg (other.2.toList ++ ·) ih
  | case3 c rest none' ih =>
    obtain ⟨here, others⟩ : ¬ entry.1.toList <+: c :: rest ∧ entryAt? table (c :: rest) = none := by
      rw [entryAt?_cons] at none'
      split at none'
      · cases none'
      · next absent => exact ⟨absent, none'⟩
    have unfound := entryAt?_replaceAll separate (c :: rest)
    rw [replaceAll_other nonempty here, others] at unfound
    rw [replaceAll_other nonempty here, cut_of_none unfound, cut_of_none none']
    exact congrArg (c :: ·) ih

end Step

/-- One token after the other is the same as one pass. -/
theorem toList_replaceEach (table : List (String × String)) : IsSeparate table → ∀ text : String,
    (replaceEach table text).toList = rendered (cut table text.toList) := by
  induction table with
  | nil =>
    intro _ text
    have copied : rendered (cut [] (text.toList ++ [])) = text.toList ++ rendered (cut [] []) :=
      rendered_cut_append (by simp) (by simp) []
    rw [cut_nil, List.append_nil] at copied
    exact (copied.trans (List.append_nil _)).symm
  | cons entry table ih =>
    intro separate text
    have first := rendered_cut_replaceAll separate text.toList
    have later := ih separate.tail (replace entry.1 entry.2 text)
    rw [replace, String.toList_ofList, first] at later
    exact later

end Patternwright.Text
