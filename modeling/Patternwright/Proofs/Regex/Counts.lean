import Patternwright.Proofs.Regex.Closing
import Mathlib.Data.List.TakeWhile
import Mathlib.Data.Nat.Digits.Defs
import Mathlib.Algebra.Order.Ring.Int

/-!
# Counts in braces

Braces behind a part ask for bounds of its repetition, or they are ordinary characters, or they are
refused. Which of these it is depends on the text between them alone, as long as nothing in it has a
meaning of its own.

Most such texts are counts. A count or a pair of counts repeats the part, as long as no count is
negative: the sign of a negative number makes ordinary characters of the braces and of all between
them. Counts that are not negative are read back from their digits, and they can still be unusable:
one may be too large, or the upper one may be below the lower one.

## Main definitions

* `asked?` — what braces ask for, told from what stands between them
* `counted` — what braces make of the part before them
* `Braces` — one count, or a lower one with or without an upper one, in braces
* `Bounds.fault?` — what can be wrong with counts that are not negative
* `Braces.repeated` — what such braces make of the part before them

## Main results

* `readBounds?_inner` — what braces ask for does not depend on what comes behind them
* `ReadsAtom.renders_counted` — a part with braces behind it reads as what they make of it
* `Renders.counted` — and so does a group
* `Braces.repeated_eq_counted` — counts in braces ask for themselves
-/

namespace Patternwright.Regex

/-! ### Numerals -/

/-- The written form of an integer. -/
def numeral (n : Int) : List Char := (toString n).toList

theorem numeral_natCast (n : Nat) : numeral n = Nat.toDigits 10 n := by
  simp [numeral, toString, Int.repr]

theorem numeral_of_neg {n : Int} (negative : n < 0) :
    numeral n = '-' :: Nat.toDigits 10 n.natAbs := by
  obtain ⟨m, rfl⟩ := Int.eq_negSucc_of_lt_zero negative
  simp [numeral, toString, Int.repr]

theorem isDigit_of_mem_toDigits {n : Nat} {c : Char} (member : c ∈ Nat.toDigits 10 n) :
    c.isDigit = true := Nat.isDigit_of_mem_toDigits (by decide) (by decide) member

theorem value?_of_isDigit {c : Char} (digit : c.isDigit = true) :
    Digit.value? c = some (c.toNat - '0'.toNat) := by
  have range : '0' ≤ c ∧ c ≤ '9' := by
    simpa [Char.isDigit, Char.le_def, UInt32.le_iff_toNat_le] using digit
  simp [Digit.value?, range]

/-- Digits are read back as the number that they are written for. -/
theorem numberOf_toDigits (n : Nat) : Digit.numberOf 10 (Nat.toDigits 10 n) = n := by
  -- The value read so far changes with every digit, so it is general here.
  have value : ∀ (digits : List Char) (start : Nat), (∀ c ∈ digits, c.isDigit = true) →
      (digits.map fun c => (Digit.value? c).getD 0).foldl (fun value digit => value * 10 + digit)
        start = Nat.ofDigitChars 10 digits start := by
    intro digits
    induction digits with
    | nil => simp
    | cons c digits ih =>
      intro start all
      have digit := value?_of_isDigit (all c List.mem_cons_self)
      rw [List.map_cons, List.foldl_cons, digit, Nat.ofDigitChars_cons,
        ih _ fun d member => all d (List.mem_cons_of_mem c member)]
      simp [Nat.mul_comm]
  rw [Digit.numberOf, Digit.number, value _ 0 fun c => isDigit_of_mem_toDigits]
  exact Nat.ofDigitChars_ten_toDigits

/-- A number that has no more digits than a numeral may have. -/
def IsShort (n : Int) : Prop := n.natAbs < 10 ^ Numeral.digitLimit

theorem isShort_of_digit {n : Int} (digit : n.natAbs < 10) : IsShort n :=
  digit.trans_le (Nat.le_self_pow (by decide) 10)

theorem readCount?_toDigits {n : Nat} (short : IsShort n) :
    readCount? (Nat.toDigits 10 n) =
      if n < countLimit then .ok (some n) else .error { cause := .countTooLarge } := by
  have length : ¬ Numeral.digitLimit < (Nat.toDigits 10 n).length := by
    rw [Nat.not_lt, Nat.length_toDigits_le_iff (by decide) (by decide)]
    simpa [IsShort] using short
  have written : (Nat.toDigits 10 n).isEmpty = false := by simp [Nat.toDigits_ne_nil]
  rw [readCount?, readCount, numberOf_toDigits, if_neg length, written]
  by_cases small : n < countLimit <;> simp [small, Except.map]

theorem ne_of_isDigit {c d : Char} (digit : c.isDigit = true) (other : d.isDigit = false) :
    c ≠ d := by
  rintro rfl
  simp [digit] at other

section Digits

variable {digits rest : List Char} (run : ∀ c ∈ digits, c.isDigit = true)
  (stop : ∀ c ∈ rest.head?, c.isDigit = false)

include run stop

theorem takeWhile_isDigit : (digits ++ rest).takeWhile Char.isDigit = digits := by
  rw [List.takeWhile_append_of_pos run]
  cases rest with
  | nil => simp
  | cons c rest => simp [stop c rfl]

theorem dropWhile_isDigit : (digits ++ rest).dropWhile Char.isDigit = rest := by
  rw [List.dropWhile_append_of_pos run]
  cases rest with
  | nil => simp
  | cons c rest => simp [stop c rfl]

end Digits

/-! ### Reading braces -/

theorem takeChars_tokenize {test : Char → Bool} (run : List Char) {rest : List Char}
    (escape : test '\\' = false) (stops : ∀ c, rest.head? = some c → test c = false) :
    (∀ c ∈ run, test c = true) → ∀ most, run.length ≤ most →
      takeChars test most (tokenize (run ++ rest)) = (run, tokenize rest) := by
  -- The greatest length runs down with the characters taken.
  induction run with
  | nil =>
    intro _ most _
    cases most with
    | zero => simp [takeChars]
    | succ most =>
      cases rest with
      | nil => simp [takeChars, tokenize]
      | cons c rest =>
        by_cases plain : c = '\\'
        · subst plain
          cases rest <;> simp [takeChars, tokenize]
        · simp [tokenize_plain plain, takeChars, stops c rfl]
  | cons c run ih =>
    intro all most enough
    have plain : c ≠ '\\' := by
      rintro rfl
      exact absurd (all _ List.mem_cons_self) (by simp [escape])
    cases most with
    | zero => simp at enough
    | succ most =>
      have later := ih (fun d member => all d (List.mem_cons_of_mem c member)) most
        (by simpa using enough)
      simp [tokenize_plain plain, takeChars, all c, later]

/-- What is wrong with counts that are not negative: a count that is too large comes first. -/
def Bounds.fault? (bounds : Bounds) : Option Cause :=
  if countLimit ≤ bounds.least ∨ bounds.most.any (countLimit ≤ ·) then some .countTooLarge
  else if bounds.most.any (· < bounds.least) then some .leastAboveMost
  else none

/-- Bounds without a fault are in order. -/
theorem Bounds.ordered_of_fault? {bounds : Bounds} (usable : bounds.fault? = none) :
    ∀ limit, bounds.most = some limit → bounds.least ≤ limit := by
  intro limit given
  unfold fault? at usable
  rw [given] at usable
  by_contra inverted
  have below : limit < bounds.least := by omega
  simp only [Option.any_some, below, decide_true, ↓reduceIte] at usable
  split at usable <;> cases usable

/-- Bounds that are small enough and in order have no fault. -/
theorem Bounds.fault?_eq_none {low : Nat} {high : Option Nat} (lowFits : low < countLimit)
    (highFits : ∀ limit, high = some limit → low ≤ limit ∧ limit < countLimit) :
    (⟨low, high⟩ : Bounds).fault? = none := by
  rw [fault?]
  cases high with
  | none => simp [Nat.not_le.mpr lowFits]
  | some high =>
    obtain ⟨ordered, fits⟩ := highFits high rfl
    simp [Nat.not_le.mpr lowFits, Nat.not_le.mpr fits, Nat.not_lt.mpr ordered]

/-! ### Texts between braces -/

/-- Nothing in the text has a meaning of its own, and nothing in it closes braces. -/
def IsInner (text : List Char) : Prop := ∀ c ∈ text, isSign c = false ∧ c ≠ '}'

instance (text : List Char) : Decidable (IsInner text) :=
  List.decidableBAll (fun c => isSign c = false ∧ c ≠ '}') text

theorem isInner_append {text more : List Char} :
    IsInner (text ++ more) ↔ IsInner text ∧ IsInner more := List.forall_mem_append

theorem isInner_cons {c : Char} {text : List Char} :
    IsInner (c :: text) ↔ (isSign c = false ∧ c ≠ '}') ∧ IsInner text := List.forall_mem_cons

theorem isInner_of_isDigit {text : List Char} (digits : ∀ c ∈ text, c.isDigit = true) :
    IsInner text := by
  intro c member
  have other {d : Char} := ne_of_isDigit (d := d) (digits c member)
  exact ⟨not_isSign_iff.mpr ⟨other rfl, other rfl, other rfl, other rfl, other rfl, other rfl,
    other rfl, other rfl, other rfl, other rfl, other rfl, other rfl⟩, other rfl⟩

theorem IsInner.ne_backslash {text : List Char} (inner : IsInner text) :
    ∀ c ∈ text, c ≠ '\\' := fun c member => (not_isSign_iff.mp (inner c member).1).1

/-- The bounds that two runs of digits stand for; a run without digits is no bound. -/
def boundsOf (low high : List Char) : Except Cause Bounds :=
  match readCount? low, readCount? high with
  | .error fault, _ => .error fault.cause
  | .ok _, .error fault => .error fault.cause
  | .ok least?, .ok most =>
    if most.any (· < least?.getD 0) then .error .leastAboveMost
    else .ok ⟨least?.getD 0, most⟩

/-- What braces ask for, told from what stands between them: bounds, or nothing if the braces are
ordinary characters. -/
def asked? (inner : List Char) : Except Cause (Option Bounds) :=
  let low := inner.takeWhile Char.isDigit
  match inner.dropWhile Char.isDigit with
  | [] => if low = [] then .ok none else (boundsOf low low).map some
  | c :: more =>
    if c = ',' ∧ more.all Char.isDigit = true then (boundsOf low more).map some else .ok none

/-- What braces ask for, with the place of a fault or the text behind them. -/
def placed (asked : Except Cause (Option Bounds)) (place : Option Nat) (rest : List Char) :
    Reading (Option (Bounds × List Token)) :=
  match asked with
  | .error cause => .error ⟨cause, place⟩
  | .ok bounds? => .ok (bounds?.map (·, tokenize rest))

theorem takeDigits_tokenize (text rest : List Char) :
    takeChars Char.isDigit (tokenize (text ++ '}' :: rest)).length
        (tokenize (text ++ '}' :: rest)) =
      (text.takeWhile Char.isDigit, tokenize (text.dropWhile Char.isDigit ++ '}' :: rest)) := by
  have digits : ∀ c ∈ text.takeWhile Char.isDigit, c.isDigit = true :=
    fun c => List.mem_takeWhile_imp
  have split : text ++ '}' :: rest =
      text.takeWhile Char.isDigit ++ (text.dropWhile Char.isDigit ++ '}' :: rest) := by
    rw [← List.append_assoc, List.takeWhile_append_dropWhile]
  rw [split]
  refine takeChars_tokenize _ (by decide) ?_ digits _ ?_
  · have stops := List.head?_dropWhile_not Char.isDigit text
    cases later : text.dropWhile Char.isDigit with
    | nil => simp
    | cons c more => simpa [later] using stops
  · rw [tokenize_append (isInner_of_isDigit digits).ne_backslash]
    simp

theorem brace_append_ne_backslash (inner rest : List Char) : inner ++ '}' :: rest ≠ ['\\'] := by
  intro alone
  have member : '}' ∈ inner ++ '}' :: rest := by simp
  rw [alone] at member
  exact absurd member (by decide)

theorem settle_tokenize_brace (text rest : List Char) :
    settle (tokenize (text ++ '}' :: rest)) = .ok () :=
  settle_tokenize (brace_append_ne_backslash text rest)

theorem readBraceEnd_closed (here : Nat) (low high : List Char) {rest : List Char}
    (settled : rest ≠ ['\\']) :
    ∃ place, readBraceEnd here low high (tokenize ('}' :: rest)) =
      placed ((boundsOf low high).map some) place rest := by
  rw [tokenize_plain (by decide)]
  simp only [readBraceEnd, settle_tokenize settled, ok_bind, boundsOf]
  cases readCount? low with
  | error fault => exact ⟨fault.left?, rfl⟩
  | ok least? =>
    cases readCount? high with
    | error fault => exact ⟨fault.left?, rfl⟩
    | ok most =>
      by_cases inverted : most.any (· < least?.getD 0) = true
      · exact ⟨some here, by simp [inverted, stop, placed, Except.map]⟩
      · exact ⟨none, by simp [inverted, placed, Except.map]⟩

theorem readBraceEnd_open (here : Nat) (low high : List Char) {c : Char} (plain : c ≠ '\\')
    (other : c ≠ '}') (rest : List Char) :
    readBraceEnd here low high (tokenize (c :: rest)) = .ok none := by
  rw [tokenize_plain plain]
  simp [readBraceEnd, other]

theorem readUpper_inner (here : Nat) (low : List Char) {text : List Char} (plain : IsInner text)
    {rest : List Char} (settled : rest ≠ ['\\']) :
    ∃ place, readUpper here low (tokenize (text ++ '}' :: rest)) =
      placed (if text.all Char.isDigit then (boundsOf low text).map some else .ok none)
        place rest := by
  simp only [readUpper, settle_tokenize_brace, ok_bind, takeDigits_tokenize]
  cases after : text.dropWhile Char.isDigit with
  | nil =>
    have digits := List.dropWhile_eq_nil_iff.mp after
    rw [if_pos (List.all_eq_true.mpr digits), List.takeWhile_eq_self_iff.mpr digits]
    exact readBraceEnd_closed here low text settled
  | cons c more =>
    have member : c ∈ text := (List.dropWhile_suffix _).subset (after ▸ List.mem_cons_self)
    have open' : ¬ text.all Char.isDigit = true := by
      rw [List.all_eq_true, ← List.dropWhile_eq_nil_iff, after]
      simp
    refine ⟨none, ?_⟩
    rw [if_neg open', List.cons_append,
      readBraceEnd_open _ _ _ (plain.ne_backslash c member) (plain c member).2]
    rfl

/-- What braces ask for does not depend on what comes behind them. -/
theorem readBounds?_inner {inner : List Char} (plain : IsInner inner) {rest : List Char}
    (settled : rest ≠ ['\\']) :
    ∃ place, readBounds? (tokenize (inner ++ '}' :: rest)) = placed (asked? inner) place rest := by
  have within : inner.dropWhile Char.isDigit ⊆ inner := (List.dropWhile_suffix _).subset
  -- Only empty braces close at once.
  have head : (tokenize (inner ++ '}' :: rest)).head? = some (.plain '}') ↔ inner = [] := by
    cases inner with
    | nil => simp [tokenize_plain (show '}' ≠ '\\' by decide)]
    | cons c inner =>
      rw [List.cons_append, tokenize_plain (plain.ne_backslash c List.mem_cons_self)]
      simp [(plain c List.mem_cons_self).2]
  by_cases empty : inner = []
  · subst empty
    exact ⟨none, by rw [readBounds?, if_pos (head.mpr rfl)]; rfl⟩
  simp only [readBounds?_eq, if_neg (mt head.mp empty), takeDigits_tokenize,
    settle_tokenize_brace, ok_bind, asked?]
  have whole : inner.takeWhile Char.isDigit ++ inner.dropWhile Char.isDigit = inner :=
    List.takeWhile_append_dropWhile
  cases after : inner.dropWhile Char.isDigit with
  | nil =>
    -- A single count is both the lower and the upper one.
    rw [after, List.append_nil] at whole
    rw [whole, if_neg empty, List.nil_append]
    obtain ⟨place, closed⟩ := readBraceEnd_closed (left (tokenize (inner ++ '}' :: rest))) inner
      inner settled
    refine ⟨place, ?_⟩
    rw [tokenize_plain (by decide)] at closed ⊢
    exact closed
  | cons c more =>
    rw [after, List.cons_subset] at within
    have escape := plain.ne_backslash c within.1
    rw [List.cons_append, tokenize_plain escape]
    by_cases comma : c = ','
    · subst comma
      simpa using readUpper_inner _ _ (fun d member => plain d (within.2 member)) settled
    · have open' := readBraceEnd_open (left (tokenize (inner ++ '}' :: rest)))
        (inner.takeWhile Char.isDigit) (inner.takeWhile Char.isDigit) escape
        (plain c within.1).2 (more ++ '}' :: rest)
      rw [tokenize_plain escape] at open'
      exact ⟨none, by simpa [comma, placed] using open'⟩

theorem ordered_of_asked? {inner : List Char} {bounds : Bounds}
    (asked : asked? inner = .ok (some bounds)) :
    ∀ limit, bounds.most = some limit → bounds.least ≤ limit := by
  have ordered {low high : List Char} (found : (boundsOf low high).map some = .ok (some bounds)) :
      ∀ limit, bounds.most = some limit → bounds.least ≤ limit := by
    unfold boundsOf at found
    split at found
    · cases found
    · cases found
    · split at found
      · cases found
      · next least? most usable =>
        obtain rfl : _ = bounds := Option.some.inj (Except.ok.inj found)
        rintro limit rfl
        simpa using usable
  unfold asked? at asked
  dsimp only at asked
  split at asked
  · split at asked
    · cases asked
    · exact ordered asked
  · split at asked
    · exact ordered asked
    · cases asked

/-! ### Braces behind a part -/

/-- A text in braces. -/
def braced (inner : List Char) : List Char := '{' :: (inner ++ ['}'])

/-- What a part becomes with braces behind it: one repetition, or the part and the characters of the
braces. -/
def counted (inner : List Char) (node : Node) : Except Cause (List Node) :=
  (asked? inner).map fun
    | some bounds => [.rep .greedy bounds.least bounds.most node]
    | none => node :: literals (braced inner)

theorem counted_ne_nil (inner : List Char) (node : Node) : counted inner node ≠ .ok [] := by
  unfold counted
  rcases asked? inner with cause | _ | bounds <;> simp [Except.map]

theorem braced_append (inner rest : List Char) :
    braced inner ++ rest = '{' :: (inner ++ '}' :: rest) := by simp [braced]

theorem readPlain_brace (frame : Frame) (tokens : List Token) :
    readPlain frame '{' tokens = (do
      match ← readBounds? tokens with
      | some (bounds, after) => frame.repeatLast bounds tokens after
      | none => return (frame.push (.char (.one '{'.toNat)), tokens)) := rfl

section Braced

variable {inner : List Char} (plain : IsInner inner)

include plain

/-- Braces that ask for nothing add their own characters. -/
theorem reads_braced (asked : asked? inner = .ok none) :
    Reads (braced inner) (literals (braced inner)) := by
  have ordinary : ∀ c ∈ inner ++ ['}'], isSign c = false := by
    intro c member
    rcases List.mem_append.mp member with member | member
    · exact (plain c member).1
    · obtain rfl := List.mem_singleton.mp member
      decide
  obtain ⟨pieces, row, step⟩ := (reads_literals ordinary).extend
  refine ⟨calm_cons rfl, ⟨.char (.one '{'.toNat), .atom⟩ :: pieces, by simp [row, braced], ?_⟩
  intro ledger frame outer rest loose calm
  -- The opening brace is a literal by itself, and reading goes on right behind it.
  obtain ⟨place, read⟩ := readBounds?_inner plain calm.settled
  rw [asked] at read
  have taken : readPlain frame '{' (tokenize (inner ++ '}' :: rest)) =
      .ok (frame.push (.char (.one '{'.toNat)), tokenize (inner ++ '}' :: rest)) := by
    rw [readPlain_brace, read]
    rfl
  have later := step ledger (frame.push (.char (.one '{'.toNat))) outer rest loose calm
  rw [List.append_assoc, List.singleton_append] at later
  rw [braced_append, readFrames_plain rfl (by decide) loose (brace_append_ne_backslash inner rest)
    taken (resume_self _), later]
  simp [Frame.push_eq_extend]

/-- Braces that ask for bounds repeat what stands before them. -/
theorem repeats_braced {bounds : Bounds} (asked : asked? inner = .ok (some bounds)) :
    Repeats (braced inner) bounds := by
  refine ⟨by simp [braced], fun ledger frame outer node rest loose calm => ?_⟩
  obtain ⟨place, read⟩ := readBounds?_inner plain calm.settled
  rw [asked] at read
  have taken : readPlain (frame.push node) '{' (tokenize (inner ++ '}' :: rest)) =
      .ok (frame.push (.rep .greedy bounds.least bounds.most node) .repetition,
        tokenize rest) := by
    rw [readPlain_brace, read]
    exact repeatLast_push calm (tokenize (inner ++ '}' :: rest))
  have split : inner ++ '}' :: rest = (inner ++ ['}']) ++ rest := by simp
  have escape : ∀ c ∈ inner ++ ['}'], c ≠ '\\' := by
    simpa [or_imp, forall_and] using plain.ne_backslash
  rw [braced_append]
  refine readFrames_plain rfl (by decide) loose (brace_append_ne_backslash inner rest) taken ?_
  rw [split, tokenize_append escape]
  exact resume_append _ _

/-- A part with braces behind it reads as what the braces make of it, or the braces are refused. -/
theorem ReadsAtom.renders_counted {text : List Char} {node : Node} (atom : ReadsAtom text node)
    (calm : Calm (text ++ braced inner)) :
    Renders (text ++ braced inner) (counted inner node) := by
  unfold counted
  cases asked : asked? inner with
  | error cause =>
    -- These braces are counts, so a fault of theirs stops the reader here.
    refine ⟨calm, fun ledger frame outer rest loose after => ?_⟩
    obtain ⟨place, read⟩ := readBounds?_inner plain after.settled
    rw [asked] at read
    have refused : readPlain (frame.push node) '{' (tokenize (inner ++ '}' :: rest)) =
        .error ⟨cause, place⟩ := by
      rw [readPlain_brace, read]
      rfl
    refine ⟨place, ?_⟩
    rw [List.append_assoc, atom.push ledger frame outer _ loose (by simp [braced]), braced_append]
    exact readFrames_plain_error rfl (by decide) loose (brace_append_ne_backslash inner rest)
      refused
  | ok bounds? =>
    cases bounds? with
    | some bounds => exact atom.reads_repeated (repeats_braced plain asked) calm
    | none => exact atom.reads.append (reads_braced plain asked)

/-- A group with braces behind it. -/
theorem Renders.counted {text : List Char} {draft : Except Cause (List Node)}
    (renders : Renders text draft) :
    Renders ('(' :: '?' :: ':' :: (text ++ ')' :: braced inner))
      (draft.bind fun row => Regex.counted inner (.sequence row)) := by
  cases draft with
  | ok row =>
    have group : ReadsAtom ('(' :: '?' :: ':' :: (text ++ [')'])) (.sequence row) :=
      (Reads.fills renders).readsAtom_group marks_plain
    have repeated := group.renders_counted plain (calm_cons rfl)
    simpa [Except.bind] using repeated
  | error cause => exact Refuses.group marks_plain renders (braced inner)

end Braced

/-! ### Counts in braces -/

/-- Counts written in braces. -/
inductive Braces where
  | exactly (count : Int)
  | between (low : Int) (high : Option Int)
  deriving DecidableEq, Repr

namespace Braces

/-- The counts that are given. -/
def counts : Braces → List Int
  | exactly count => [count]
  | between low high => low :: high.toList

/-- What stands behind the opening brace, up to the closing one. -/
def inner : Braces → List Char
  | exactly count => numeral count ++ ['}']
  | between low high => numeral low ++ ',' :: ((high.map numeral).getD [] ++ ['}'])

/-- The braces as they stand in a pattern. -/
def text (braces : Braces) : List Char := '{' :: braces.inner

/-- The braces repeat what stands before them: no count is negative. -/
def isQuantifier (braces : Braces) : Bool := braces.counts.all (0 ≤ ·)

/-- How often braces repeat what stands before them. -/
def bounds : Braces → Bounds
  | exactly count => ⟨count.toNat, some count.toNat⟩
  | between low high => ⟨low.toNat, high.map Int.toNat⟩

/-- What a part becomes with braces behind it: one repetition, or the part and the characters of the
braces. -/
def repeated (braces : Braces) (node : Node) : Except Cause (List Node) :=
  if braces.isQuantifier then
    match braces.bounds.fault? with
    | some cause => .error cause
    | none => .ok [.rep .greedy braces.bounds.least braces.bounds.most node]
  else .ok (node :: literals braces.text)

/-- No count has more digits than a numeral may have. -/
def IsShort (braces : Braces) : Prop := ∀ count ∈ braces.counts, Regex.IsShort count

end Braces

/-- What stands between the braces. -/
def Braces.body : Braces → List Char
  | .exactly count => numeral count
  | .between low high => numeral low ++ ',' :: (high.map numeral).getD []

theorem Braces.text_eq (braces : Braces) : braces.text = braced braces.body := by
  cases braces <;> simp [text, inner, body, braced]

theorem numeral_of_nonneg {n : Int} (nonneg : 0 ≤ n) : numeral n = Nat.toDigits 10 n.toNat := by
  rw [← numeral_natCast, Int.toNat_of_nonneg nonneg]

theorem isInner_numeral (n : Int) : IsInner (numeral n) := by
  have digits (m : Nat) : IsInner (Nat.toDigits 10 m) :=
    isInner_of_isDigit fun c => isDigit_of_mem_toDigits
  -- Beside digits there is only the minus of a negative number.
  rcases lt_or_ge n 0 with negative | nonneg
  · rw [numeral_of_neg negative, isInner_cons]
    exact ⟨by decide, digits _⟩
  · rw [numeral_of_nonneg nonneg]
    exact digits _

theorem Braces.isInner_body (braces : Braces) : IsInner braces.body := by
  cases braces with
  | exactly count => exact isInner_numeral count
  | between low high =>
    refine isInner_append.mpr ⟨isInner_numeral low, isInner_cons.mpr ⟨by decide, ?_⟩⟩
    cases high with
    | none => simp [IsInner]
    | some high => exact isInner_numeral high

/-- The digits in front are a numeral if nothing or a comma comes behind it. -/
theorem digits_toDigits_append (n : Nat) (rest : List Char)
    (stops : ∀ c, rest.head? = some c → c.isDigit = false) :
    (Nat.toDigits 10 n ++ rest).takeWhile Char.isDigit = Nat.toDigits 10 n ∧
      (Nat.toDigits 10 n ++ rest).dropWhile Char.isDigit = rest := by
  have digits : ∀ c ∈ Nat.toDigits 10 n, c.isDigit = true := fun _ => isDigit_of_mem_toDigits
  exact ⟨takeWhile_isDigit digits stops, dropWhile_isDigit digits stops⟩

theorem asked?_exactly {n : Nat} (short : IsShort n) :
    asked? (Nat.toDigits 10 n) =
      if n < countLimit then .ok (some ⟨n, some n⟩) else .error .countTooLarge := by
  obtain ⟨digits, rest⟩ := digits_toDigits_append n [] (by simp)
  rw [List.append_nil] at digits rest
  simp only [asked?, digits, rest, Nat.toDigits_ne_nil, ↓reduceIte, boundsOf,
    readCount?_toDigits short]
  by_cases small : n < countLimit <;> simp [small, Except.map]

theorem asked?_between {low : Nat} (high : Option Nat) (lowShort : IsShort low)
    (highShort : ∀ n : Nat, high = some n → IsShort n) :
    asked? (Nat.toDigits 10 low ++ ',' :: (high.map (Nat.toDigits 10)).getD []) =
      match (⟨low, high⟩ : Bounds).fault? with
      | some cause => .error cause
      | none => .ok (some ⟨low, high⟩) := by
  obtain ⟨digits, rest⟩ := digits_toDigits_append low
    (',' :: (high.map (Nat.toDigits 10)).getD []) (by simp)
  simp only [asked?, digits, rest, boundsOf, readCount?_toDigits lowShort]
  -- The lower count is checked first, then the upper one, and their order last.
  cases high with
  | none =>
    by_cases small : low < countLimit <;>
      simp [readCount?, Bounds.fault?, small, Except.map, Nat.not_le.mpr, Nat.le_of_not_lt]
  | some high =>
    have all : (Nat.toDigits 10 high).all Char.isDigit = true :=
      List.all_eq_true.mpr fun _ => isDigit_of_mem_toDigits
    simp only [Option.map_some, Option.getD_some, all, and_self, ↓reduceIte,
      readCount?_toDigits (highShort high rfl), Bounds.fault?]
    by_cases small : low < countLimit <;> by_cases smallHigh : high < countLimit <;>
      by_cases inverted : high < low <;>
      simp [small, smallHigh, inverted, Except.map, Nat.not_le.mpr, Nat.le_of_not_lt]

/-- Braces without a negative count ask for their counts. -/
theorem Braces.asked?_of_isQuantifier {braces : Braces} (quantifier : braces.isQuantifier = true)
    (short : braces.IsShort) :
    asked? braces.body =
      match braces.bounds.fault? with
      | some cause => .error cause
      | none => .ok (some braces.bounds) := by
  cases braces with
  | exactly count =>
    have nonneg : 0 ≤ count := by simpa [isQuantifier, counts] using quantifier
    obtain ⟨n, rfl⟩ := Int.eq_ofNat_of_zero_le nonneg
    have countShort : Regex.IsShort n := short _ (by simp [counts])
    simp only [body, numeral_natCast, asked?_exactly countShort, bounds, Int.toNat_natCast,
      Bounds.fault?]
    by_cases small : n < countLimit <;> simp [small, Nat.not_le.mpr, Nat.le_of_not_lt]
  | between low high =>
    have nonneg : 0 ≤ low ∧ ∀ count, high = some count → 0 ≤ count := by
      simpa [isQuantifier, counts] using quantifier
    obtain ⟨least, rfl⟩ := Int.eq_ofNat_of_zero_le nonneg.1
    have lowShort : Regex.IsShort least := short _ (by simp [counts])
    cases high with
    | none => simpa [body, bounds, numeral_natCast] using asked?_between none lowShort
    | some high =>
      obtain ⟨most, rfl⟩ := Int.eq_ofNat_of_zero_le (nonneg.2 high rfl)
      have highShort : Regex.IsShort most := short _ (by simp [counts])
      simpa [body, bounds, numeral_natCast] using
        asked?_between (some most) lowShort (by simpa using highShort)

/-- The sign of a negative count makes ordinary characters of braces. -/
theorem Braces.asked?_of_not_isQuantifier {braces : Braces}
    (literal : braces.isQuantifier = false) : asked? braces.body = .ok none := by
  have minus (rest : List Char) : asked? ('-' :: rest) = .ok none := by simp [asked?]
  cases braces with
  | exactly count =>
    have negative : count < 0 := by simpa [isQuantifier, counts] using literal
    rw [body, numeral_of_neg negative]
    exact minus _
  | between low high =>
    rcases lt_or_ge low 0 with negative | nonneg
    · rw [body, numeral_of_neg negative]
      exact minus _
    · obtain ⟨count, rfl, negative⟩ : ∃ count, high = some count ∧ count < 0 := by
        simpa [isQuantifier, counts, nonneg] using literal
      obtain ⟨-, rest⟩ := digits_toDigits_append low.toNat
        (',' :: '-' :: Nat.toDigits 10 count.natAbs) (by simp)
      rw [body, numeral_of_nonneg nonneg, Option.map_some, Option.getD_some,
        numeral_of_neg negative]
      simp [asked?, rest]

/-- Braces make of a part what is asked for by what stands between them. -/
theorem Braces.repeated_eq_counted {braces : Braces} (short : braces.IsShort) (node : Node) :
    braces.repeated node = counted braces.body node := by
  unfold repeated counted
  cases quantifier : braces.isQuantifier with
  | true =>
    rw [asked?_of_isQuantifier quantifier short]
    cases braces.bounds.fault? <;> rfl
  | false =>
    rw [asked?_of_not_isQuantifier quantifier, text_eq]
    rfl

/-- A count that can be used has few digits. -/
theorem isShort_of_lt_countLimit {n : Int} (nonneg : 0 ≤ n) (below : n < countLimit) :
    IsShort n := by
  have limit : 10 ^ 10 ≤ 10 ^ Numeral.digitLimit := Nat.pow_le_pow_right (by decide) (by decide)
  unfold IsShort
  unfold countLimit at below
  omega

/-- Braces ask for counts that can be used. -/
theorem Braces.asked?_usable {braces : Braces}
    (fits : ∀ count ∈ braces.counts, 0 ≤ count ∧ count < countLimit)
    (usable : braces.bounds.fault? = none) : asked? braces.body = .ok (some braces.bounds) := by
  have quantifier : braces.isQuantifier = true := by
    simpa [Braces.isQuantifier] using fun count member => (fits count member).1
  have short : braces.IsShort := fun count member =>
    isShort_of_lt_countLimit (fits count member).1 (fits count member).2
  rw [Braces.asked?_of_isQuantifier quantifier short, usable]

theorem Braces.asked?_exactly_usable {count : Nat} (fits : count < countLimit) :
    asked? (Braces.exactly count).body = .ok (some ⟨count, some count⟩) := by
  refine Braces.asked?_usable ?_ (Bounds.fault?_eq_none fits ?_)
  · simpa [Braces.counts] using fits
  · rintro limit same
    obtain rfl := Option.some.inj same
    exact ⟨le_rfl, fits⟩

/-- Bounds that are small enough and in order ask for themselves. -/
theorem Braces.asked?_between_usable {low : Nat} (high : Option Nat) (lowFits : low < countLimit)
    (highFits : ∀ limit, high = some limit → low ≤ limit ∧ limit < countLimit) :
    asked? (Braces.between low (high.map Int.ofNat)).body = .ok (some ⟨low, high⟩) := by
  have counts : ∀ count ∈ (Braces.between low (high.map Int.ofNat)).counts,
      0 ≤ count ∧ count < countLimit := by
    cases high with
    | none => simpa [Braces.counts] using lowFits
    | some high => simpa [Braces.counts] using ⟨lowFits, (highFits high rfl).2⟩
  have bounds : (Braces.between low (high.map Int.ofNat)).bounds = ⟨low, high⟩ := by
    cases high <;> rfl
  rw [Braces.asked?_usable counts (bounds ▸ Bounds.fault?_eq_none lowFits highFits), bounds]

/-- Small counts in order repeat what stands before them. -/
theorem Braces.repeats_small {braces : Braces}
    (small : ∀ count ∈ braces.counts, 0 ≤ count ∧ count < 100)
    (usable : braces.bounds.fault? = none) : Repeats braces.text braces.bounds := by
  have fits : ∀ count ∈ braces.counts, 0 ≤ count ∧ count < countLimit := fun count member =>
    ⟨(small count member).1, (small count member).2.trans (by decide)⟩
  exact braces.text_eq ▸ repeats_braced braces.isInner_body (Braces.asked?_usable fits usable)

end Patternwright.Regex
