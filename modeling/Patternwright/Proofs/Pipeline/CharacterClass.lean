import Patternwright.Pipeline.Stage
import Patternwright.Proofs.Regex.Reading
import Mathlib.Data.List.Flatten

/-!
# Character classes

The switches of a configuration put their members into one bracketed set. Members are read one after
the other, so the set that the reader builds is the members of the switches in a row, whichever of
them are on: no member runs into the next one, and none ends the set.

## Main definitions

* `Pipeline.switchItems` — the members that a switch stands for
* `Pipeline.classItems` — the members of all switches that are on

## Main results

* `Pipeline.readsAtom_class` — the text of a class reads as the set of its members
-/

namespace Patternwright.Regex

/-! ### Members of a set -/

section Members

variable {start : Nat} {items : List SetItem} {token : Token} {tokens after : List Token}

theorem readMembers_item {item : SetItem} (opened : token ≠ .plain ']')
    (settled : settle tokens = .ok ()) (taken : readSetAtom token tokens = .ok (item, after))
    (single : ∀ later, after ≠ .plain '-' :: later) (later : resume tokens after = after) :
    readMembers start items (token :: tokens) = readMembers start (items ++ [item]) after := by
  rw [readMembers, settled, taken]
  simp only [ok_bind, opened, decide_false, Bool.false_and, Bool.false_eq_true, ↓reduceIte, later]

theorem readMembers_range {lastToken : Token} {afterLast : List Token} {low high : Nat}
    (opened : token ≠ .plain ']') (settled : settle tokens = .ok ())
    (taken : readSetAtom token tokens =
      .ok (.one low, .plain '-' :: lastToken :: afterLast))
    (open' : lastToken ≠ .plain ']') (settledLast : settle (lastToken :: afterLast) = .ok ())
    (settledAfter : settle afterLast = .ok ())
    (takenLast : readSetAtom lastToken afterLast = .ok (.one high, after))
    (ordered : low ≤ high) (later : resume tokens after = after) :
    readMembers start items (token :: tokens) =
      readMembers start (items ++ [.range low high]) after := by
  rw [readMembers, settled, taken]
  simp only [ok_bind, opened, decide_false, Bool.false_and, Bool.false_eq_true, ↓reduceIte]
  rw [settledLast]
  simp [settledAfter, open', takenLast, rangeOf, Nat.not_lt.mpr ordered, later]

theorem readMembers_close (nonempty : items ≠ []) (settled : settle tokens = .ok ()) :
    readMembers start items (.plain ']' :: tokens) = .ok (items, tokens) := by
  rw [readMembers, settled]
  simp [nonempty]

end Members

/-- What may follow a member without making a range of it. -/
structure Detached (text : List Char) : Prop where
  notDash : text.head? ≠ some '-'
  settled : text ≠ ['\\']

theorem Detached.append {text rest : List Char} (detached : Detached text)
    (after : Detached rest) : Detached (text ++ rest) := by
  cases text with
  | nil => exact after
  | cons c text =>
    refine ⟨by simpa using detached.notDash, fun alone => ?_⟩
    obtain ⟨rfl, rfl, -⟩ : c = '\\' ∧ text = [] ∧ rest = [] := by simpa using alone
    exact detached.settled rfl

theorem Detached.tokenize_ne {text : List Char} (detached : Detached text) (later : List Token) :
    tokenize text ≠ .plain '-' :: later := tokenize_ne_plain detached.notDash later

/-- Wherever the text stands in a set, it adds some members. -/
structure ReadsMembers (text : List Char) (members : List SetItem) : Prop where
  detached : Detached text
  whole : ∃ tokens, ∀ rest, tokenize (text ++ rest) = tokens ++ tokenize rest
  add : ∀ (start : Nat) (items : List SetItem) (rest : List Char), Detached rest →
    readMembers start items (tokenize (text ++ rest)) =
      readMembers start (items ++ members) (tokenize rest)

theorem readsMembers_nil : ReadsMembers [] [] :=
  ⟨⟨by simp, by simp⟩, ⟨[], fun _ => rfl⟩, fun start items rest _ => by simp⟩

theorem ReadsMembers.append {text more : List Char} {members others : List SetItem}
    (first : ReadsMembers text members) (second : ReadsMembers more others) :
    ReadsMembers (text ++ more) (members ++ others) := by
  obtain ⟨tokens, whole⟩ := first.whole
  obtain ⟨others, wholeMore⟩ := second.whole
  refine ⟨first.detached.append second.detached, ⟨tokens ++ others, fun rest => ?_⟩,
    fun start items rest detached => ?_⟩
  · rw [List.append_assoc, whole, wholeMore, List.append_assoc]
  · rw [List.append_assoc, first.add start items _ (second.detached.append detached),
      second.add start _ rest detached, List.append_assoc]

/-- The character stands for itself in a bracketed set, wherever it is. -/
def isPlainMember : Char → Bool
  | ']' | '\\' | '-' => false
  | _ => true

theorem ne_of_isPlainMember {c : Char} (plain : isPlainMember c = true) :
    c ≠ ']' ∧ c ≠ '\\' ∧ c ≠ '-' := by
  have other {d : Char} (sign : isPlainMember d = false) : c ≠ d := by
    rintro rfl
    simp [sign] at plain
  exact ⟨other rfl, other rfl, other rfl⟩

theorem readsMembers_plain {c : Char} (plain : isPlainMember c = true) :
    ReadsMembers [c] [.one c.toNat] := by
  obtain ⟨opened, escape, dash⟩ := ne_of_isPlainMember plain
  refine ⟨⟨by simpa using dash, by simpa using escape⟩,
    ⟨[.plain c], fun rest => tokenize_plain escape rest⟩, fun start items rest detached => ?_⟩
  rw [List.singleton_append, tokenize_plain escape]
  exact readMembers_item (by simpa using opened) (settle_tokenize detached.settled) rfl
    detached.tokenize_ne (resume_self _)

theorem readsMembers_escaped {c : Char} {item : SetItem}
    (taken : ∀ tokens, readSetEscape c tokens = .ok (item, tokens)) :
    ReadsMembers ['\\', c] [item] := by
  refine ⟨⟨by simp, by simp⟩, ⟨[.escaped c], fun _ => rfl⟩, fun start items rest detached => ?_⟩
  exact readMembers_item (by simp) (settle_tokenize detached.settled) (taken _)
    detached.tokenize_ne (resume_self _)

theorem readsMembers_plain_range (low high : Char) (plain : isPlainMember low = true)
    (plain' : isPlainMember high = true) (ordered : low.toNat ≤ high.toNat) :
    ReadsMembers [low, '-', high] [.range low.toNat high.toNat] := by
  obtain ⟨opened, escape, dash⟩ := ne_of_isPlainMember plain
  obtain ⟨opened', escape', -⟩ := ne_of_isPlainMember plain'
  have whole (rest : List Char) : tokenize ([low, '-', high] ++ rest) =
      [.plain low, .plain '-', .plain high] ++ tokenize rest := by
    simp only [List.cons_append, List.nil_append]
    rw [tokenize_plain escape, tokenize_plain (by decide), tokenize_plain escape']
  refine ⟨⟨by simpa using dash, by simp⟩, ⟨_, whole⟩, fun start items rest detached => ?_⟩
  rw [whole]
  exact readMembers_range (by simpa using opened) rfl rfl (by simpa using opened') rfl
    (settle_tokenize detached.settled) rfl ordered (resume_append [_, _] _)

theorem takeChars_map_plain {test : Char → Bool} (run : List Char) (rest : List Token) :
    (∀ c ∈ run, test c = true) →
      takeChars test run.length (run.map .plain ++ rest) = (run, rest) := by
  induction run with
  | nil =>
    intro _
    simp [takeChars]
  | cons c run ih =>
    intro all
    have later := ih fun d member => all d (List.mem_cons_of_mem c member)
    simp [takeChars, all c, later]

/-- A hexadecimal digit. -/
def isHexDigit (c : Char) : Bool := (Digit.value? c).isSome

theorem ne_backslash_of_isHexDigit {c : Char} (hex : isHexDigit c = true) : c ≠ '\\' := by
  rintro rfl
  exact absurd hex (by decide)

theorem digit_lt_sixteen (c : Char) : (Digit.value? c).getD 0 < 16 := by
  unfold Digit.value?
  split
  · next decimal =>
    have range : 0x30 ≤ c.toNat ∧ c.toNat ≤ 0x39 := decimal
    simp only [Option.getD_some]
    omega
  split
  · next lower =>
    have range : 0x61 ≤ c.toNat ∧ c.toNat ≤ 0x66 := lower
    simp only [Option.getD_some]
    omega
  split
  · next upper =>
    have range : 0x41 ≤ c.toNat ∧ c.toNat ≤ 0x46 := upper
    simp only [Option.getD_some]
    omega
  · simp

/-- The escape of a character by four hexadecimal digits. -/
theorem readSetAtom_hex {digits : List Char} (four : digits.length = 4)
    (hex : ∀ c ∈ digits, isHexDigit c = true) {rest : List Token} (settled : settle rest = .ok ()) :
    readSetAtom (.escaped 'u') (digits.map .plain ++ rest) =
      .ok (.one (Digit.numberOf 16 digits), rest) := by
  have taken : takeChars (fun c => (Digit.value? c).isSome) 4 (digits.map .plain ++ rest) =
      (digits, rest) := four ▸ takeChars_map_plain digits rest hex
  have small : Digit.numberOf 16 digits ≤ 0x10FFFF := by
    match digits, four with
    | [a, b, c, d], _ =>
      have bounds := And.intro (digit_lt_sixteen a) (And.intro (digit_lt_sixteen b)
        (And.intro (digit_lt_sixteen c) (digit_lt_sixteen d)))
      simp only [Digit.numberOf, Digit.number, List.map_cons, List.map_nil, List.foldl_cons,
        List.foldl_nil]
      omega
  have code : readHexCode 'u' 4 (digits.map .plain ++ rest) =
      .ok (Digit.numberOf 16 digits, rest) := by
    simp [readHexCode, taken, settled, four, small]
  change (readHexCode 'u' 4 (digits.map Token.plain ++ rest) >>= fun result =>
    .ok (SetItem.one result.1, result.2)) = _
  rw [code]
  rfl

/-- A range between two characters given by four hexadecimal digits each. -/
theorem readsMembers_hex_range (first last : List Char) (four : first.length = 4)
    (four' : last.length = 4) (digits : (first ++ last).all isHexDigit = true)
    (ordered : Digit.numberOf 16 first ≤ Digit.numberOf 16 last) :
    ReadsMembers ('\\' :: 'u' :: (first ++ '-' :: '\\' :: 'u' :: last))
      [.range (Digit.numberOf 16 first) (Digit.numberOf 16 last)] := by
  have hex := List.all_eq_true.mp digits
  have plain : ∀ c ∈ first ++ last, c ≠ '\\' := fun c member =>
    ne_backslash_of_isHexDigit (hex c member)
  -- Neither digits nor dash take a character with them, only the two backslashes do.
  have whole (rest : List Char) :
      tokenize ('\\' :: 'u' :: (first ++ '-' :: '\\' :: 'u' :: last) ++ rest) =
        .escaped 'u' :: (first.map .plain ++ .plain '-' :: .escaped 'u' :: last.map .plain) ++
          tokenize rest := by
    simp only [List.cons_append, List.append_assoc, tokenize_escaped]
    rw [tokenize_append fun c member => plain c (List.mem_append_left last member),
      tokenize_plain (by decide), tokenize_escaped,
      tokenize_append fun c member => plain c (List.mem_append_right first member)]
  refine ⟨⟨by simp, by simp⟩, ⟨_, whole⟩, fun start items rest detached => ?_⟩
  have settled := settle_tokenize detached.settled
  have begun : settle (last.map .plain ++ tokenize rest) = .ok () := by
    match last, four' with
    | c :: last, _ => rfl
  rw [whole]
  simp only [List.cons_append, List.append_assoc]
  refine readMembers_range (by simp) ?_
    (readSetAtom_hex four (fun c member => hex c (List.mem_append_left last member)) rfl) (by simp)
    rfl begun (readSetAtom_hex four' (fun c member => hex c (List.mem_append_right first member))
      settled) ordered ?_
  · match first, four with
    | c :: first, _ => rfl
  · have run := resume_append
      (first.map Token.plain ++ .plain '-' :: .escaped 'u' :: last.map .plain) (tokenize rest)
    simpa using run

theorem readsMembers_run (text : List Char) (plain : text.all isPlainMember = true) :
    ReadsMembers text (text.map fun c => .one c.toNat) := by
  induction text with
  | nil => exact readsMembers_nil
  | cons c text ih =>
    rw [List.all_cons, Bool.and_eq_true] at plain
    exact (readsMembers_plain plain.1).append (ih plain.2)

theorem eraseDups_of_nodup {α : Type} [BEq α] [LawfulBEq α] {items : List α}
    (distinct : items.Nodup) : items.eraseDups = items := by
  induction items with
  | nil => rfl
  | cons item items ih =>
    obtain ⟨fresh, distinct⟩ := List.nodup_cons.mp distinct
    -- No later item is dropped on account of the first one.
    have kept : items.filter (fun other => !other == item) = items := by
      rw [List.filter_eq_self]
      rintro other member
      have other_ne : other ≠ item := fun same => fresh (same ▸ member)
      simp [other_ne]
    rw [List.eraseDups_cons, kept, ih distinct]

/-- Brackets around members are one part. Distinct members stay as they are written. -/
theorem ReadsMembers.readsAtom_set {text : List Char} {items : List SetItem}
    (reads : ReadsMembers text items) (opening : text.head? ≠ some '^') (nonempty : items ≠ [])
    (many : ∀ code, items ≠ [.one code]) (distinct : items.Nodup) :
    ReadsAtom ('[' :: (text ++ [']'])) (.char (.set false items)) := by
  refine ⟨calm_cons rfl, ?_⟩
  intro ledger frame outer rest loose settled
  obtain ⟨tokens, whole⟩ := reads.whole
  have closing : Detached (']' :: rest) := ⟨by simp, by simp⟩
  have inside : Detached (text ++ ']' :: rest) := reads.detached.append closing
  -- Reading drops doubles, and it would make a literal of a single one.
  have test : CharTest.ofSet false items = .set false items := by
    rw [CharTest.ofSet, eraseDups_of_nodup distinct]
    split
    · exact (many _ rfl).elim
    · rfl
  have taken (start : Nat) : readMembers start [] (tokenize (text ++ ']' :: rest)) =
      .ok (items, tokenize rest) := by
    rw [reads.add start [] _ closing, List.nil_append, tokenize_plain (by decide)]
    exact readMembers_close nonempty (settle_tokenize settled)
  have set : readSet (tokenize (text ++ ']' :: rest)) =
      .ok (.set false items, tokenize rest) := by
    -- A caret in front would negate the set.
    have first : (text ++ ']' :: rest).head? ≠ some '^' := by
      cases text <;> simp_all
    rw [readSet]
    · simp [taken, test]
    · exact tokenize_ne_plain first
  have piece : readPlain frame '[' (tokenize (text ++ ']' :: rest)) =
      .ok (frame.push (.char (.set false items)), tokenize rest) := by
    simp [readPlain, set]
  have later : resume (tokenize (text ++ ']' :: rest)) (tokenize rest) = tokenize rest := by
    have run := resume_append (tokens ++ [.plain ']']) (tokenize rest)
    rw [whole, tokenize_plain (by decide)]
    simpa using run
  have read : readFrames ledger frame outer (tokenize ('[' :: (text ++ ']' :: rest))) =
      readFrames ledger (frame.push (.char (.set false items))) outer (tokenize rest) :=
    readFrames_plain rfl (by decide) loose inside.settled piece later
  simpa using read

/-- Ranges as they stand in a set. -/
def rangesText (ranges : List (Char × Char)) : List Char :=
  ranges.flatMap fun range => [range.1, '-', range.2]

/-- One character of some ranges. -/
def inRanges (ranges : List (Char × Char)) : CharTest :=
  .set false (ranges.map fun range => .range range.1.toNat range.2.toNat)

/-- The range is in order, and both ends stand for themselves. -/
def isPlainRange (range : Char × Char) : Bool :=
  isPlainMember range.1 && isPlainMember range.2 && range.1.toNat ≤ range.2.toNat

theorem readsMembers_ranges (ranges : List (Char × Char)) (plain : ranges.all isPlainRange = true) :
    ReadsMembers (rangesText ranges)
      (ranges.map fun range => .range range.1.toNat range.2.toNat) := by
  induction ranges with
  | nil => exact readsMembers_nil
  | cons range ranges ih =>
    rw [List.all_cons, Bool.and_eq_true] at plain
    obtain ⟨first, later⟩ := plain
    simp only [isPlainRange, Bool.and_eq_true, decide_eq_true_eq] at first
    obtain ⟨⟨low, high⟩, ordered⟩ := first
    exact (readsMembers_plain_range _ _ low high ordered).append (ih later)

/-- Brackets around ranges are one part. -/
theorem readsAtom_ranges {ranges : List (Char × Char)} (plain : ranges.all isPlainRange = true)
    (opening : (rangesText ranges).head? ≠ some '^') (nonempty : ranges ≠ [])
    (distinct : (ranges.map fun range => SetItem.range range.1.toNat range.2.toNat).Nodup) :
    ReadsAtom ('[' :: (rangesText ranges ++ [']'])) (.char (inRanges ranges)) := by
  refine (readsMembers_ranges ranges plain).readsAtom_set opening (by simpa using nonempty) ?_
    distinct
  intro code single
  obtain ⟨range, -, same⟩ := List.mem_map.mp (single ▸ List.mem_singleton_self (SetItem.one code))
  simp at same

/-- Where case counts, a character is in some ranges if it lies between the ends of one. -/
theorem accepts_inRanges_iff {options : Options} (cased : options.ignoreCase = false)
    (ranges : List (Char × Char)) (c : Char) :
    (inRanges ranges).accepts options c = true ↔
      ∃ range ∈ ranges, range.1 ≤ c ∧ c ≤ range.2 := by
  simp [inRanges, CharTest.accepts, setContains, cased, SetItem.contains, Char.le_def,
    UInt32.le_iff_toNat_le]

end Patternwright.Regex

namespace Patternwright.Pipeline

open Regex

/-! ### The members of the switches -/

/-- The characters of the switch for special ones. -/
def specials : List Char := "!@#$%^&*()_+-=[]\x7b\x7d;:\"\\|,.<>?/~".toList

/-- The members that a switch stands for. -/
def switchItems : Scalar → List SetItem
  | .digits => [.named false .digit]
  | .letters => [.range 'a'.toNat 'z'.toNat, .range 'A'.toNat 'Z'.toNat]
  | .whitespace => [.named false .space]
  | .special => specials.map fun c => .one c.toNat
  | .arabic => [.range 0x0600 0x06FF, .range 0x0750 0x077F, .range 0x08A0 0x08FF,
      .range 0xFB50 0xFDFF, .range 0xFE70 0xFEFF]
  | _ => []

/-- The switches that are on, each with the text of its members. -/
def partsOn (config : Config) : List (Scalar × String) :=
  classParts.filter fun part => config.isOn part.1

/-- The members of all switches that are on. -/
def classItems (config : Config) : List SetItem :=
  (partsOn config).flatMap fun part => switchItems part.1

theorem readsMembers_letters : ReadsMembers "a-zA-Z".toList (switchItems .letters) := by
  have small := readsMembers_plain_range 'a' 'z' rfl rfl (by decide)
  have capital := readsMembers_plain_range 'A' 'Z' rfl rfl (by decide)
  exact small.append capital

theorem readsMembers_specials :
    ReadsMembers "!@#$%^&*()_+\\-=\\[\\]\x7b\x7d;:\"\\\\|,.<>?/~".toList
      (switchItems .special) := by
  have escaped {c : Char} (taken : ∀ tokens, readSetEscape c tokens = .ok (.one c.toNat, tokens)) :=
    readsMembers_escaped taken
  have first := readsMembers_run "!@#$%^&*()_+".toList rfl
  have brackets := (escaped (c := '[') fun _ => rfl).append (escaped (c := ']') fun _ => rfl)
  have middle := readsMembers_run "\x7b\x7d;:\"".toList rfl
  have last := readsMembers_run "|,.<>?/~".toList rfl
  exact first.append <| (escaped (c := '-') fun _ => rfl).append <|
    (readsMembers_plain (c := '=') rfl).append <|
      brackets.append <| middle.append <| (escaped (c := '\\') fun _ => rfl).append last

theorem readsMembers_arabic :
    ReadsMembers ("\\u0600-\\u06FF\\u0750-\\u077F\\u08A0-\\u08FF\\uFB50-\\uFDFF" ++
      "\\uFE70-\\uFEFF").toList (switchItems .arabic) := by
  have arabic := readsMembers_hex_range "0600".toList "06FF".toList rfl rfl rfl (by decide)
  have supplement := readsMembers_hex_range "0750".toList "077F".toList rfl rfl rfl (by decide)
  have extended := readsMembers_hex_range "08A0".toList "08FF".toList rfl rfl rfl (by decide)
  have formsA := readsMembers_hex_range "FB50".toList "FDFF".toList rfl rfl rfl (by decide)
  have formsB := readsMembers_hex_range "FE70".toList "FEFF".toList rfl rfl rfl (by decide)
  exact arabic.append (supplement.append (extended.append (formsA.append formsB)))

/-- The text of a switch reads as its members, and no switch begins with a caret. -/
theorem readsMembers_part {part : Scalar × String} (member : part ∈ classParts) :
    ReadsMembers part.2.toList (switchItems part.1) := by
  simp only [classParts, List.mem_cons, List.not_mem_nil, or_false] at member
  rcases member with rfl | rfl | rfl | rfl | rfl
  · exact readsMembers_escaped fun _ => rfl
  · exact readsMembers_letters
  · exact readsMembers_escaped fun _ => rfl
  · exact readsMembers_specials
  · exact readsMembers_arabic

theorem readsMembers_parts (parts : List (Scalar × String)) :
    (∀ part ∈ parts, part ∈ classParts) →
      ReadsMembers (parts.flatMap fun part => part.2.toList)
        (parts.flatMap fun part => switchItems part.1) := by
  induction parts with
  | nil =>
    intro _
    exact readsMembers_nil
  | cons part parts ih =>
    intro known
    have later := ih fun other member => known other (List.mem_cons_of_mem part member)
    exact (readsMembers_part (known part List.mem_cons_self)).append later

/-- The text of a class, without its repetition. -/
def classText (config : Config) : List Char :=
  '[' :: ((partsOn config).flatMap (fun part => part.2.toList) ++ [']'])

/-- The text of a part begins with no caret, and its members are not one literal. -/
theorem classParts_shape : ∀ part ∈ classParts,
    (part.2.toList ≠ [] ∧ part.2.toList.head? ≠ some '^') ∧ switchItems part.1 ≠ [] ∧
      ∀ item ∈ switchItems part.1, switchItems part.1 = [item] →
        item ∈ [SetItem.named false .digit, SetItem.named false .space] := by
  decide

/-- No member belongs to two switches. -/
theorem nodup_classItems (config : Config) : (classItems config).Nodup := by
  have all : (classParts.flatMap fun part => switchItems part.1).Nodup := by decide
  have on : (partsOn config).Sublist classParts := List.filter_sublist
  exact all.sublist (on.flatMap _)

/-- The text of a class reads as the set of its members. -/
theorem readsAtom_class {config : Config} (switched : partsOn config ≠ []) :
    ReadsAtom (classText config) (.char (.set false (classItems config))) := by
  have known : ∀ part ∈ partsOn config, part ∈ classParts := by
    intro part member
    exact (List.mem_filter.mp member).1
  -- One switch that is on is enough to see that the set is neither empty nor negated.
  obtain ⟨part, parts, on⟩ := List.exists_cons_of_ne_nil switched
  have first : part ∈ partsOn config := on ▸ List.mem_cons_self
  obtain ⟨⟨written, opening⟩, nonempty, many⟩ := classParts_shape part (known part first)
  refine (readsMembers_parts _ known).readsAtom_set ?_ ?_ ?_ (nodup_classItems config)
  · obtain ⟨c, text, begins⟩ := List.exists_cons_of_ne_nil written
    rw [begins] at opening
    rw [on, List.flatMap_cons, begins]
    exact opening
  · rw [on, List.flatMap_cons]
    simp [nonempty]
  · intro code single
    rw [on, List.flatMap_cons, List.append_eq_singleton_iff] at single
    rcases single with ⟨empty, -⟩ | ⟨only, -⟩
    · exact nonempty empty
    · have named := many (.one code) (only ▸ List.mem_singleton_self _) only
      simp at named

end Patternwright.Pipeline
