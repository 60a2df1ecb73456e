import Mathlib
import Patternwright.Proofs.Shape.Written

/-!
# Mail addresses

The pattern of a mail address leaves open where the words of its parts end: points belong to the
characters of a host, and a point also stands before the last label. An address can be checked
without a search all the same. It has one at sign, which divides it into a name and a domain, and
the last point of the domain divides that into a host and a label, as a label has no point.

## Main definitions

* `Email.name`, `Email.domain`, `Email.host`, `Email.label` — the parts of a word, found in one pass
* `Email.IsAddress` — the check on these parts

## Main results

* `Email.isAddress_iff` — the parts are those of any way to divide a word
* `Email.accepts_iff_isAddress` — the texts that the shape accepts
-/

namespace Patternwright.Email

open Regex

/-! ### Parts of an address -/

/-- What stands before the first at sign. -/
def name (word : List Char) : List Char := word.takeWhile (· != '@')

/-- What stands behind the first at sign. -/
def domain (word : List Char) : List Char := (word.dropWhile (· != '@')).tail

/-- What stands before the last point of a domain. -/
def host (domain : List Char) : List Char := (domain.rdropWhile (· != '.')).dropLast

/-- What stands behind the last point of a domain. -/
def label (domain : List Char) : List Char := domain.rtakeWhile (· != '.')

/-- A character of a name: a letter or digit of ASCII or one of some signs. -/
def isNameChar (c : Char) : Bool := c.isAlphanum || "._%+-".toList.contains c

/-- A character of a host. -/
def isHostChar (c : Char) : Bool := c.isAlphanum || ".-".toList.contains c

/-- The check on the parts of a word. -/
structure IsAddress (word : List Char) : Prop where
  single : word.count '@' = 1
  named : name word ≠ []
  nameChars : ∀ c ∈ name word, isNameChar c = true
  dotted : '.' ∈ domain word
  long : 2 ≤ (label (domain word)).length
  letters : ∀ c ∈ label (domain word), c.isAlpha = true
  hosted : host (domain word) ≠ []
  hostChars : ∀ c ∈ host (domain word), isHostChar c = true

instance (word : List Char) : Decidable (IsAddress word) :=
  decidable_of_iff (word.count '@' = 1 ∧ (name word ≠ [] ∧ (name word).all isNameChar = true) ∧
    '.' ∈ domain word ∧ (2 ≤ (label (domain word)).length ∧
      (label (domain word)).all Char.isAlpha = true) ∧
    (host (domain word) ≠ [] ∧ (host (domain word)).all isHostChar = true)) (by
      simp only [List.all_eq_true]
      exact ⟨fun ⟨single, ⟨named, nameChars⟩, dotted, ⟨long, letters⟩, hosted, hostChars⟩ =>
        ⟨single, named, nameChars, dotted, long, letters, hosted, hostChars⟩,
        fun address => ⟨address.single, ⟨address.named, address.nameChars⟩, address.dotted,
          ⟨address.long, address.letters⟩, address.hosted, address.hostChars⟩⟩)

section Split

variable {c : Char} {before behind word : List Char}

theorem takeWhile_append_cons (first : c ∉ before) :
    (before ++ c :: behind).takeWhile (· != c) = before := by
  have other : ∀ d ∈ before, (d != c) = true := fun d member =>
    bne_iff_ne.mpr fun same => first (same ▸ member)
  rw [List.takeWhile_append_of_pos other]
  simp

theorem dropWhile_append_cons (first : c ∉ before) :
    (before ++ c :: behind).dropWhile (· != c) = c :: behind := by
  have other : ∀ d ∈ before, (d != c) = true := fun d member =>
    bne_iff_ne.mpr fun same => first (same ▸ member)
  rw [List.dropWhile_append_of_pos other]
  simp

theorem rtakeWhile_append_cons (last : c ∉ behind) :
    (before ++ c :: behind).rtakeWhile (· != c) = behind := by
  have first : c ∉ behind.reverse := by simpa using last
  simp [List.rtakeWhile, takeWhile_append_cons first]

theorem rdropWhile_append_cons (last : c ∉ behind) :
    (before ++ c :: behind).rdropWhile (· != c) = before ++ [c] := by
  have first : c ∉ behind.reverse := by simpa using last
  simp [List.rdropWhile, dropWhile_append_cons first]

/-- A word is divided at the first of some characters. -/
theorem eq_append_of_mem (member : c ∈ word) :
    word = word.takeWhile (· != c) ++ c :: (word.dropWhile (· != c)).tail := by
  obtain ⟨before, behind, rfl, first⟩ := List.eq_append_cons_of_mem member
  rw [takeWhile_append_cons first, dropWhile_append_cons first, List.tail_cons]

/-- A word is divided at the last of some characters. -/
theorem eq_append_of_mem_last (member : c ∈ word) :
    word = (word.rdropWhile (· != c)).dropLast ++ c :: word.rtakeWhile (· != c) := by
  obtain ⟨behind, before, reversed, last⟩ :=
    List.eq_append_cons_of_mem (List.mem_reverse.mpr member)
  obtain rfl : word = before.reverse ++ c :: behind.reverse := by
    rw [← List.reverse_reverse word, reversed]
    simp
  have last' : c ∉ behind.reverse := by simpa using last
  rw [rtakeWhile_append_cons last', rdropWhile_append_cons last', List.dropLast_concat]

end Split

/-- The parts are those of any way to divide a word into a name, a host and a label. -/
theorem isAddress_iff {word : List Char} :
    IsAddress word ↔ ∃ name host label, word = name ++ '@' :: (host ++ '.' :: label) ∧
      (name ≠ [] ∧ ∀ c ∈ name, isNameChar c = true) ∧
      (host ≠ [] ∧ ∀ c ∈ host, isHostChar c = true) ∧
      (2 ≤ label.length ∧ ∀ c ∈ label, c.isAlpha = true) := by
  constructor
  · intro address
    have sign : '@' ∈ word := List.count_pos_iff.mp (address.single ▸ Nat.one_pos)
    refine ⟨name word, host (domain word), label (domain word), ?_,
      ⟨address.named, address.nameChars⟩, ⟨address.hosted, address.hostChars⟩, address.long,
      address.letters⟩
    rw [host, label, ← eq_append_of_mem_last address.dotted]
    exact eq_append_of_mem sign
  · rintro ⟨first, middle, last, rfl, ⟨named, nameChars⟩, ⟨hosted, hostChars⟩, long, letters⟩
    -- Neither sign is a character of the part that it ends.
    have noSign : '@' ∉ first := fun member => by cases nameChars _ member
    have noSign' : '@' ∉ middle := fun member => by cases hostChars _ member
    have noSign'' : '@' ∉ last := fun member => by cases letters _ member
    have noPoint : '.' ∉ last := fun member => by cases letters _ member
    have nameEq : name (first ++ '@' :: (middle ++ '.' :: last)) = first :=
      takeWhile_append_cons noSign
    have domainEq : domain (first ++ '@' :: (middle ++ '.' :: last)) = middle ++ '.' :: last := by
      rw [domain, dropWhile_append_cons noSign, List.tail_cons]
    have labelEq : label (middle ++ '.' :: last) = last := rtakeWhile_append_cons noPoint
    have hostEq : host (middle ++ '.' :: last) = middle := by
      rw [host, rdropWhile_append_cons noPoint, List.dropLast_concat]
    exact {
      single := by
        simp [List.count_eq_zero.mpr noSign, List.count_eq_zero.mpr noSign',
          List.count_eq_zero.mpr noSign'']
      named := by rwa [nameEq]
      nameChars := by rwa [nameEq]
      dotted := by simp [domainEq]
      long := by rwa [domainEq, labelEq]
      letters := by rwa [domainEq, labelEq]
      hosted := by rwa [domainEq, hostEq]
      hostChars := by rwa [domainEq, hostEq] }

/-! ### The pattern -/

/-- The letters of ASCII. -/
def letterItems : List SetItem :=
  [.range 'a'.toNat 'z'.toNat, .range 'A'.toNat 'Z'.toNat]

/-- The letters and digits of ASCII and some signs. -/
def itemsWith (signs : List Char) : List SetItem :=
  letterItems ++ .range '0'.toNat '9'.toNat :: signs.map fun c => .one c.toNat

/-- The parts of the pattern. -/
def row : List Node :=
  [.rep .greedy 1 none (.char (.set false (itemsWith "._%+-".toList)))] ++ literals ['@'] ++
    [.rep .greedy 1 none (.char (.set false (itemsWith ".-".toList)))] ++ literals ['.'] ++
    [.rep .greedy 2 none (.char (.set false letterItems))]

theorem isRowText_row :
    isRowText "^[a-zA-Z0-9._%+-]+@[a-zA-Z0-9.-]+\\.[a-zA-Z]\x7b2,\x7d$" row = true := by
  decide +kernel

theorem accepts_letterItems (c : Char) :
    (CharTest.set false letterItems).accepts {} c = true ↔ c.isAlpha = true := by
  simp [CharTest.accepts, setContains, SetItem.contains, letterItems, Char.isAlpha, Char.isUpper,
    Char.isLower, UInt32.le_iff_toNat_le, or_comm]

theorem accepts_itemsWith (signs : List Char) (c : Char) :
    (CharTest.set false (itemsWith signs)).accepts {} c = true ↔
      (c.isAlphanum || signs.contains c) = true := by
  have letters := accepts_letterItems c
  simp only [CharTest.accepts, setContains, Bool.false_and, Bool.false_eq_true, if_false,
    bne_iff_ne, ne_eq, Bool.not_eq_false] at letters ⊢
  rw [itemsWith, List.any_append, Bool.or_eq_true, letters]
  simp [SetItem.contains, Char.isAlphanum, Char.isDigit, UInt32.le_iff_toNat_le, Char.toNat_inj,
    or_assoc]

/-- At least `least` characters of a set. -/
theorem obeys_many (items : List SetItem) (least : Nat) {Holds : Char → Bool}
    (accepts : ∀ c, (CharTest.set false items).accepts {} c = true ↔ Holds c = true) :
    (Node.sequence [.rep .greedy least none (.char (.set false items))]).Obeys {} fun _ word =>
      least ≤ word.length ∧ ∀ c ∈ word, Holds c = true :=
  (obeys_rep_char (.set false items) least (by simp)).congr fun _ word _ => by simp [accepts]

/-- The words of the pattern are the addresses. -/
theorem obeys_row : (Node.sequence row).Obeys {} fun _ word => IsAddress word := by
  have sign : (Node.sequence (literals ['@'])).Obeys {} _ := obeys_literals rfl ['@']
  have point : (Node.sequence (literals ['.'])).Obeys {} _ := obeys_literals rfl ['.']
  have first := obeys_many (itemsWith "._%+-".toList) 1 (accepts_itemsWith _)
  have middle := obeys_many (itemsWith ".-".toList) 1 (accepts_itemsWith _)
  have last := obeys_many letterItems 2 accepts_letterItems
  refine (obeys_sequence_append (obeys_sequence_append (obeys_sequence_append
    (obeys_sequence_append first sign) middle) point) last).congr fun s word _ => ?_
  rw [isAddress_iff]
  constructor
  · rintro ⟨_, label, rfl, ⟨_, _, rfl, ⟨_, host, rfl, ⟨name, _, rfl, ⟨named, nameChars⟩, rfl⟩, hosted,
      hostChars⟩, rfl⟩, long, letters⟩
    exact ⟨name, host, label, by simp, ⟨List.length_pos_iff.mp named, nameChars⟩,
      ⟨List.length_pos_iff.mp hosted, hostChars⟩, long, letters⟩
  · rintro ⟨name, host, label, rfl, ⟨named, nameChars⟩, ⟨hosted, hostChars⟩, long, letters⟩
    exact ⟨name ++ ['@'] ++ host ++ ['.'], label, by simp, ⟨name ++ ['@'] ++ host, ['.'], rfl,
      ⟨name ++ ['@'], host, rfl, ⟨name, ['@'], rfl, ⟨List.length_pos_iff.mpr named, nameChars⟩, rfl⟩,
        List.length_pos_iff.mpr hosted, hostChars⟩, rfl⟩, long, letters⟩

/-! ### Accepted texts -/

/-- Without options, the accepted texts are the addresses, with or without a line break behind
them. -/
theorem accepts_iff_isAddress {config : Config} (shaped : Shape.select? config = some .email)
    (cased : config.isOn .caseInsensitive = false) (single : config.isOn .multiLine = false)
    (dotless : config.isOn .dotAll = false) :
    ∃ matcher, Matcher.ofConfig config = .ok matcher ∧ ∀ text : String,
      matcher.accepts text = true ↔
        ∃ word, (text.toList = word ∨ text.toList = word ++ ['\n']) ∧ IsAddress word :=
  Shape.accepts_iff_obeys shaped (Shape.toOptions_eq_empty cased single dotless) rfl isRowText_row
    obeys_row

/-- Nothing but a mail address is asked for. -/
def mailed : Config := Config.default.setScalar (.shape .email) (.bool true)

theorem accepts_iff_isAddress_mailed :
    Shape.select? mailed = some .email ∧ mailed.isOn .caseInsensitive = false ∧
      mailed.isOn .multiLine = false ∧ mailed.isOn .dotAll = false ∧
      ∃ matcher, Matcher.ofConfig mailed = .ok matcher ∧
        matcher.accepts "a.b@.c-1.de\n" = true := by
  have shaped : Shape.select? mailed = some .email := rfl
  obtain ⟨matcher, compiled, accepts⟩ := accepts_iff_isAddress shaped rfl rfl rfl
  exact ⟨rfl, rfl, rfl, rfl, matcher, compiled,
    (accepts _).mpr ⟨"a.b@.c-1.de".toList, .inr rfl, by decide⟩⟩

end Patternwright.Email
