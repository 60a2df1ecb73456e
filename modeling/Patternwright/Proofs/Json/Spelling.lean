import Mathlib.Data.List.TakeDrop
import Patternwright.Json.Reader
import Patternwright.Proofs.Regex.Counts
import Patternwright.Proofs.Result

/-!
# How documents are spelled

A document may be spelled in many ways: blanks stand wherever a part ends, characters may be escaped
or not, numbers may have a fraction and an exponent. The relation here is the grammar of all of
these, with what each text stands for. Members of an object are those of the text, in its order and
with repeated keys; it is their object that has each key once.

Of what is spelled, everything is read, except that an integer must not have more digits than a
numeral. The relation therefore also has the digit counts of the integers, and reading goes up to
the first one that is too long.

## Main definitions

* `Json.SpellsChars`, `Json.SpellsNumber` — texts and numbers
* `Json.Spells` — a text spells a part of a document
* `Json.SpellsShort` — and all integers in it are short enough
* `Json.IsObject` — a document is an object with some members
* `Json.Reaches` — a reader gives a result or comes to an integer that is too long

## Main results

* `Json.readText_of_spells` — texts in quotes are read
* `Json.readPlain_of_spells` — numbers are read up to what comes behind
-/

namespace Patternwright.Json

open Regex (dropWhile_isDigit ne_of_isDigit takeWhile_isDigit)

/-! ### The grammar -/

/-- Blanks, or nothing. -/
def IsGap (text : List Char) : Prop := ∀ c ∈ text, isGap c = true

/-- Characters between two quotes, and the text that they spell. Two code escapes in a row are one
character if they are the halves of a pair; half of a pair alone spells nothing. -/
inductive SpellsChars : List Char → List Char → Prop
  | nil : SpellsChars [] []
  | plain {c : Char} {body text : List Char} (quote : c ≠ '"') (slash : c ≠ '\\')
    (shown : 0x1F < c.toNat) (rest : SpellsChars body text) : SpellsChars (c :: body) (c :: text)
  | escaped {letter c : Char} {body text : List Char} (means : escaped? letter = some c)
    (rest : SpellsChars body text) : SpellsChars ('\\' :: letter :: body) (c :: text)
  | code {digits body text : List Char} {code : Nat} {c : Char} (hex : hexCode? digits = some code)
    (single : charOfCode? code = some c) (rest : SpellsChars body text) :
    SpellsChars ('\\' :: 'u' :: (digits ++ body)) (c :: text)
  | pair {digits more body text : List Char} {high low : Nat} (hex : hexCode? digits = some high)
    (hex' : hexCode? more = some low) (isHigh : isHighHalf high = true)
    (isLow : isLowHalf low = true) (rest : SpellsChars body text) :
    SpellsChars ('\\' :: 'u' :: (digits ++ '\\' :: 'u' :: (more ++ body)))
      (Char.ofNat (0x10000 + (high - 0xD800) * 0x400 + (low - 0xDC00)) :: text)

/-- Decimal digits, at least one of them. -/
structure IsRun (digits : List Char) : Prop where
  nonempty : digits ≠ []
  digits : ∀ c ∈ digits, c.isDigit = true

/-- The digits of a whole number: a zero alone, or digits that do not begin with zero. -/
structure IsWhole (whole : List Char) : Prop extends IsRun whole where
  plain : whole.head? = some '0' → whole = ['0']

/-- A point and digits, or nothing. -/
inductive SpellsFraction : List Char → List Char → Prop
  | absent : SpellsFraction [] []
  | present {digits : List Char} (run : IsRun digits) : SpellsFraction ('.' :: digits) digits

/-- A mark, perhaps a sign, and digits, or nothing. -/
inductive SpellsExponent : List Char → Option Int → Prop
  | absent : SpellsExponent [] none
  | present {mark : Char} {digits : List Char} (marked : mark = 'e' ∨ mark = 'E')
    (run : IsRun digits) : SpellsExponent (mark :: digits) (some (Digit.numberOf 10 digits))
  | plus {mark : Char} {digits : List Char} (marked : mark = 'e' ∨ mark = 'E')
    (run : IsRun digits) : SpellsExponent (mark :: '+' :: digits) (some (Digit.numberOf 10 digits))
  | minus {mark : Char} {digits : List Char} (marked : mark = 'e' ∨ mark = 'E')
    (run : IsRun digits) :
    SpellsExponent (mark :: '-' :: digits) (some (-(Digit.numberOf 10 digits : Int)))

/-- The sign before a number. -/
def signChars (negative : Bool) : List Char := if negative then ['-'] else []

/-- A number, and the digit counts of the integers in it. -/
inductive SpellsNumber : List Char → Value → List Nat → Prop
  | int (negative : Bool) {whole : List Char} (isWhole : IsWhole whole) :
    SpellsNumber (signChars negative ++ whole)
      (.int (if negative then -(Digit.numberOf 10 whole : Int) else Digit.numberOf 10 whole))
      [whole.length]
  | real (negative : Bool) {whole point fraction mark : List Char} {exponent? : Option Int}
    (isWhole : IsWhole whole) (fractional : SpellsFraction point fraction)
    (scaled : SpellsExponent mark exponent?) (inexact : fraction ≠ [] ∨ exponent?.isSome = true) :
    SpellsNumber (signChars negative ++ (whole ++ (point ++ mark)))
      (.real (.ofDecimal negative (Digit.numberOf 10 (whole ++ fraction))
        (exponent?.getD 0 - fraction.length))) []

/-- A part of a document: a value, an item of a list or a member of an object with the blanks around
it, or all that stands between two brackets. -/
inductive Part where
  | value (v : Value)
  | item (v : Value)
  | items (items : List Value)
  | member (member : String × Value)
  | members (members : List (String × Value))

/-- A text spells a part of a document, in which the integers have certain digit counts. -/
inductive Spells : List Char → Part → List Nat → Prop
  | word {entry : String × Value} (member : entry ∈ words) :
    Spells entry.1.toList (.value entry.2) []
  | number {text : List Char} {v : Value} {sizes : List Nat} (number : SpellsNumber text v sizes) :
    Spells text (.value v) sizes
  | text {body text : List Char} (chars : SpellsChars body text) :
    Spells ('"' :: (body ++ ['"'])) (.value (.text (String.ofList text))) []
  | list {body : List Char} {items : List Value} {sizes : List Nat}
    (inside : Spells body (.items items) sizes) :
    Spells ('[' :: (body ++ [']'])) (.value (.list items)) sizes
  | object {body : List Char} {members : List (String × Value)} {sizes : List Nat}
    (inside : Spells body (.members members) sizes) :
    Spells ('\x7b' :: (body ++ ['\x7d'])) (.value (.ofMembers members)) sizes
  | item {before text after : List Char} {v : Value} {sizes : List Nat} (gap : IsGap before)
    (value : Spells text (.value v) sizes) (gap' : IsGap after) :
    Spells (before ++ (text ++ after)) (.item v) sizes
  | member {before body key after text : List Char} {v : Value} {sizes : List Nat}
    (gap : IsGap before) (chars : SpellsChars body key) (gap' : IsGap after)
    (value : Spells text (.item v) sizes) :
    Spells (before ++ '"' :: (body ++ '"' :: (after ++ ':' :: text)))
      (.member (String.ofList key, v)) sizes
  | noItems {gap : List Char} (blank : IsGap gap) : Spells gap (.items []) []
  | lastItem {text : List Char} {v : Value} {sizes : List Nat}
    (item : Spells text (.item v) sizes) : Spells text (.items [v]) sizes
  | moreItems {text body : List Char} {v next : Value} {items : List Value} {sizes more : List Nat}
    (item : Spells text (.item v) sizes) (later : Spells body (.items (next :: items)) more) :
    Spells (text ++ ',' :: body) (.items (v :: next :: items)) (sizes ++ more)
  | noMembers {gap : List Char} (blank : IsGap gap) : Spells gap (.members []) []
  | lastMember {text : List Char} {m : String × Value} {sizes : List Nat}
    (member : Spells text (.member m) sizes) : Spells text (.members [m]) sizes
  | moreMembers {text body : List Char} {m next : String × Value} {members : List (String × Value)}
    {sizes more : List Nat} (member : Spells text (.member m) sizes)
    (later : Spells body (.members (next :: members)) more) :
    Spells (text ++ ',' :: body) (.members (m :: next :: members)) (sizes ++ more)

/-- A document is an object whose members are those, in this order. -/
def IsObject (document : List Char) (members : List (String × Value)) (sizes : List Nat) : Prop :=
  ∃ before body after, IsGap before ∧ Spells body (.members members) sizes ∧ IsGap after ∧
    document = before ++ '\x7b' :: (body ++ '\x7d' :: after)

theorem isGap_nil : IsGap [] := fun _ member => absurd member List.not_mem_nil

/-- A text spells a part of a document in which no integer has too many digits. -/
def SpellsShort (text : List Char) (part : Part) : Prop :=
  ∃ sizes, Spells text part sizes ∧ ∀ digits ∈ sizes, digits ≤ Numeral.digitLimit

/-! ### Texts -/

theorem length_of_hexCode? {digits : List Char} {code : Nat} (hex : hexCode? digits = some code) :
    digits.length = 4 := by
  by_contra other
  simp [hexCode?, other] at hex

/-- Characters that need no escape spell themselves. -/
theorem SpellsChars.of_plain {body : List Char}
    (plain : body.all (fun c => c ≠ '"' ∧ c ≠ '\\' ∧ 0x1F < c.toNat) = true) :
    SpellsChars body body := by
  induction body with
  | nil => exact .nil
  | cons c body ih =>
    rw [List.all_cons, Bool.and_eq_true, decide_eq_true_iff] at plain
    obtain ⟨⟨quote, slash, shown⟩, later⟩ := plain
    exact .plain quote slash shown (ih later)

theorem isHighHalf_of_charOfCode? {code : Nat} {c : Char} (single : charOfCode? code = some c) :
    isHighHalf code = false := by
  rw [Bool.eq_false_iff]
  intro isHigh
  simp [charOfCode?, isHigh] at single

/-- A code escape for a character is read by itself. -/
theorem readCode_single (mark : List Char) {digits rest : List Char} {code : Nat} {c : Char}
    (hex : hexCode? digits = some code) (more : rest ≠ []) (single : charOfCode? code = some c) :
    readCode mark (digits ++ rest) = .ok (c, rest) := by
  have four := length_of_hexCode? hex
  -- The reader gives up on digits at the end of the document, and these have a quote behind them.
  have long : ¬ (digits ++ rest).length ≤ 4 := by
    have := List.length_pos_iff.mpr more
    rw [List.length_append]
    omega
  have read : readSingle mark code rest = .ok (c, rest) := by rw [readSingle, single]
  rw [readCode, if_neg long, List.take_left' four, List.drop_left' four, hex]
  split
  · next none' => cases none'
  · next some' =>
    -- Another escape follows, but this one is not the first half of a pair.
    obtain rfl := Option.some.inj some'
    simpa [isHighHalf_of_charOfCode? single] using read
  · next some' _ =>
    obtain rfl := Option.some.inj some'
    exact read

/-- Two code escapes are read as one character if they are the halves of a pair. -/
theorem readCode_halves (mark : List Char) {digits more rest : List Char} {high low : Nat}
    (hex : hexCode? digits = some high) (hex' : hexCode? more = some low)
    (isHigh : isHighHalf high = true) (isLow : isLowHalf low = true) (later : rest ≠ []) :
    readCode mark (digits ++ '\\' :: 'u' :: (more ++ rest)) =
      .ok (Char.ofNat (0x10000 + (high - 0xD800) * 0x400 + (low - 0xDC00)), rest) := by
  have four := length_of_hexCode? hex
  have four' := length_of_hexCode? hex'
  have long : ¬ (digits ++ '\\' :: 'u' :: (more ++ rest)).length ≤ 4 := by
    rw [List.length_append, List.length_cons]
    omega
  have longer : 4 < (more ++ rest).length := by
    have := List.length_pos_iff.mpr later
    rw [List.length_append]
    omega
  rw [readCode, if_neg long, List.take_left' four, List.drop_left' four, hex]
  simp only
  rw [if_pos ⟨isHigh, longer⟩, List.take_left' four', List.drop_left' four', hex']
  simp [isLow]

/-- The characters up to the closing quote are read as the text that they spell. -/
theorem readChars_of_spells (opening rest : List Char) {body text : List Char}
    (spells : SpellsChars body text) :
    ∀ fuel, body.length < fuel →
      readChars opening fuel (body ++ '"' :: rest) = .ok (text, rest) := by
  -- Every character takes one off the fuel and at least one off the body.
  induction spells with
  | nil =>
    intro fuel enough
    obtain ⟨fuel, rfl⟩ := Nat.exists_eq_add_one.mpr (Nat.zero_lt_of_lt enough)
    simp [readChars]
  | plain quote slash shown _ ih =>
    intro fuel enough
    obtain ⟨fuel, rfl⟩ := Nat.exists_eq_add_one.mpr (Nat.zero_lt_of_lt enough)
    have visible := Nat.not_le.mpr shown
    have later := ih fuel (by simpa using enough)
    simp [readChars, quote, slash, visible, later, pure, Except.pure]
  | @escaped letter c body text means _ ih =>
    intro fuel enough
    obtain ⟨fuel, rfl⟩ := Nat.exists_eq_add_one.mpr (Nat.zero_lt_of_lt enough)
    have later := ih fuel (by simp at enough; omega)
    -- The reader looks for `u` before it looks at the other letters.
    have plain : letter ≠ 'u' := by
      rintro rfl
      cases means
    simp [readChars, means, later, pure, Except.pure]
  | @code digits body text code c hex single _ ih =>
    intro fuel enough
    obtain ⟨fuel, rfl⟩ := Nat.exists_eq_add_one.mpr (Nat.zero_lt_of_lt enough)
    have later := ih fuel (by simp at enough; omega)
    have closed : body ++ '"' :: rest ≠ [] := by simp
    have read := readCode_single ('u' :: (digits ++ (body ++ '"' :: rest))) hex closed single
    simp [readChars, read, later, pure, Except.pure]
  | @pair digits more body text high low hex hex' isHigh isLow _ ih =>
    intro fuel enough
    obtain ⟨fuel, rfl⟩ := Nat.exists_eq_add_one.mpr (Nat.zero_lt_of_lt enough)
    have later := ih fuel (by simp at enough; omega)
    have closed : body ++ '"' :: rest ≠ [] := by simp
    have read := readCode_halves
      ('u' :: (digits ++ '\\' :: 'u' :: (more ++ (body ++ '"' :: rest)))) hex hex' isHigh isLow
      closed
    simp [readChars, read, later, pure, Except.pure]

/-- A text is read after its opening quote. -/
theorem readText_of_spells {body text : List Char} (spells : SpellsChars body text)
    (rest : List Char) :
    readText (body ++ '"' :: rest) = .ok (String.ofList text, rest) := by
  rw [readText, readChars_of_spells _ rest spells _ (by rw [List.length_append]; omega)]
  rfl

/-! ### Numbers -/

/-- What may come behind a value: the end, a blank, a comma, or the end of a list or an object. -/
def Ends (rest : List Char) : Prop :=
  ∀ c ∈ rest.head?, isGap c = true ∨ c = ',' ∨ c = ']' ∨ c = '\x7d'

/-- Nothing that may come behind a value carries on with a number. -/
theorem Ends.not_numeric {rest : List Char} (ends : Ends rest) :
    ∀ c ∈ rest.head?, c.isDigit = false ∧ c ≠ '.' ∧ c ≠ 'e' ∧ c ≠ 'E' := by
  intro c head
  obtain blank | rfl | rfl | rfl := ends c head
  · simp only [isGap, Bool.or_eq_true, beq_iff_eq] at blank
    obtain ((rfl | rfl) | rfl) | rfl := blank <;> decide
  all_goals decide

section Digits

variable {digits rest : List Char}

theorem IsRun.exists_cons (run : IsRun digits) :
    ∃ c more, digits = c :: more ∧ c.isDigit = true := by
  obtain ⟨c, more, rfl⟩ := List.exists_cons_of_ne_nil run.nonempty
  exact ⟨c, more, rfl, run.digits c List.mem_cons_self⟩

/-- Digits begin with a digit and are split off as far as they go. -/
theorem IsRun.exists_span (run : IsRun digits) (stop : ∀ c ∈ rest.head?, c.isDigit = false) :
    ∃ c more, digits = c :: more ∧ c.isDigit = true ∧
      (c :: (more ++ rest)).span Char.isDigit = (c :: more, rest) := by
  obtain ⟨c, more, rfl, digit⟩ := run.exists_cons
  refine ⟨c, more, rfl, digit, ?_⟩
  rw [List.span_eq_takeWhile_dropWhile, ← List.cons_append, takeWhile_isDigit run.digits stop,
    dropWhile_isDigit run.digits stop]

theorem IsWhole.splitWhole? (isWhole : IsWhole digits)
    (stop : ∀ c ∈ rest.head?, c.isDigit = false) :
    splitWhole? (digits ++ rest) = some (digits, rest) := by
  obtain ⟨c, more, rfl, digit⟩ := isWhole.toIsRun.exists_cons
  -- A zero is read alone, and nothing is behind it in the run either.
  by_cases zero : c = '0'
  · subst zero
    rw [isWhole.plain rfl]
    rfl
  · have later : ∀ d ∈ more, d.isDigit = true := fun d member =>
      isWhole.digits d (List.mem_cons_of_mem c member)
    rw [List.cons_append, Json.splitWhole?, if_pos digit, takeWhile_isDigit later stop,
      dropWhile_isDigit later stop]
    exact zero

end Digits

/-- Digits after a point are split off, and nothing is if there is no point. -/
theorem splitFraction_of_spells {point fraction rest : List Char}
    (fractional : SpellsFraction point fraction)
    (stop : ∀ c ∈ rest.head?, c.isDigit = false ∧ c ≠ '.') :
    splitFraction (point ++ rest) = (fraction, rest) := by
  cases fractional with
  | absent =>
    cases rest with
    | nil => rfl
    | cons c rest =>
      rw [List.nil_append, splitFraction]
      exact fun digits begins => (stop c rfl).2 (List.cons_eq_cons.mp begins).1
  | present run =>
    obtain ⟨c, more, rfl, digit, span⟩ := run.exists_span fun c head => (stop c head).1
    simp [-List.span_eq_takeWhile_dropWhile, splitFraction, digit, span]

/-- An exponent is split off, and nothing is if there is no mark. -/
theorem splitExponent_of_spells {mark rest : List Char} {exponent? : Option Int}
    (scaled : SpellsExponent mark exponent?)
    (stop : ∀ c ∈ rest.head?, c.isDigit = false ∧ c ≠ 'e' ∧ c ≠ 'E') :
    splitExponent (mark ++ rest) = (exponent?, rest) := by
  have ends : ∀ c ∈ rest.head?, c.isDigit = false := fun c head => (stop c head).1
  cases scaled with
  | absent =>
    cases rest with
    | nil => rfl
    | cons c rest => simp [splitExponent, (stop c rfl).2]
  | present marked run =>
    obtain ⟨c, more, rfl, digit, span⟩ := run.exists_span ends
    have unsigned : c ≠ '-' ∧ c ≠ '+' := ⟨ne_of_isDigit digit rfl, ne_of_isDigit digit rfl⟩
    simp [-List.span_eq_takeWhile_dropWhile, splitExponent, marked, unsigned, span]
  | plus marked run =>
    obtain ⟨c, more, rfl, -, span⟩ := run.exists_span ends
    simp [-List.span_eq_takeWhile_dropWhile, splitExponent, marked, span]
  | minus marked run =>
    obtain ⟨c, more, rfl, -, span⟩ := run.exists_span ends
    simp [-List.span_eq_takeWhile_dropWhile, splitExponent, marked, span]

/-! ### Integers that are too long -/

/-- A reader gives a result, unless there are integers of certain digit counts on its way and one of
them has too many digits: it stops at the first such one. -/
def Reaches {α : Type} (sizes : List Nat) (read : Except Fault α) (result : α) : Prop :=
  match sizes.find? (Numeral.digitLimit < ·) with
  | none => read = .ok result
  | some digits => ∃ left, read = .error ⟨.numeralTooLong digits, left⟩

section Reaches

variable {α β : Type} {sizes more : List Nat} {read : Except Fault α}
  {next : α → Except Fault β} {a : α} {b : β}

theorem reaches_nil : Reaches [] read a ↔ read = .ok a := Iff.rfl

/-- A reader gives its result if all integers on its way are short enough. -/
theorem Reaches.eq_ok (reaches : Reaches sizes read a)
    (short : ∀ digits ∈ sizes, digits ≤ Numeral.digitLimit) : read = .ok a := by
  have none' : sizes.find? (Numeral.digitLimit < ·) = none :=
    List.find?_eq_none.mpr fun digits member => by simpa using short digits member
  rwa [Reaches, none'] at reaches

theorem Reaches.bind (first : Reaches sizes read a) (second : Reaches more (next a) b) :
    Reaches (sizes ++ more) (read >>= next) b := by
  rw [Reaches, List.find?_append]
  rw [Reaches] at first
  cases long : sizes.find? (Numeral.digitLimit < ·) with
  | none =>
    rw [long] at first
    obtain rfl : read = .ok a := first
    exact second
  | some digits =>
    rw [long] at first
    obtain ⟨left, rfl⟩ := first
    exact ⟨left, rfl⟩

/-- What is only done with a result keeps to the integers of the reader. -/
theorem Reaches.bind_ok (first : Reaches sizes read a) (second : next a = .ok b) :
    Reaches sizes (read >>= next) b := by
  simpa using first.bind (reaches_nil.mpr second)

end Reaches

theorem SpellsNumber.exists_digit {text : List Char} {v : Value} {sizes : List Nat}
    (number : SpellsNumber text v sizes) :
    ∃ negative c more, text = signChars negative ++ c :: more ∧ c.isDigit = true := by
  cases number with
  | int negative isWhole =>
    obtain ⟨c, more, rfl, digit⟩ := isWhole.exists_cons
    exact ⟨negative, c, more, rfl, digit⟩
  | real negative isWhole fractional scaled inexact =>
    obtain ⟨c, more, rfl, digit⟩ := isWhole.exists_cons
    exact ⟨negative, c, _, rfl, digit⟩

/-- The parts of a number are split off one after the other, whatever its sign. -/
theorem readNumber_of_split (negative : Bool) {whole text fraction mark rest : List Char}
    {exponent? : Option Int} (isWhole : IsWhole whole)
    (stop : ∀ c ∈ text.head?, c.isDigit = false) (point : splitFraction text = (fraction, mark))
    (scale : splitExponent mark = (exponent?, rest)) :
    readNumber (signChars negative ++ (whole ++ text)) =
      if fraction = [] ∧ exponent? = none then
        if Numeral.digitLimit < whole.length then
          Json.stop (.numeralTooLong whole.length) (signChars negative ++ (whole ++ text))
        else
          .ok (.int (if negative then -(Digit.numberOf 10 whole : Int)
            else Digit.numberOf 10 whole), rest)
      else
        .ok (.real (.ofDecimal negative (Digit.numberOf 10 (whole ++ fraction))
          (exponent?.getD 0 - fraction.length)), rest) := by
  have split := isWhole.splitWhole? stop
  obtain ⟨c, more, rfl, digit⟩ := isWhole.exists_cons
  have unsigned : c ≠ '-' := ne_of_isDigit digit rfl
  rw [List.cons_append] at split
  rw [readNumber.eq_def]
  cases negative <;> simp [signChars, unsigned, split, point, scale]

/-- A number is read up to what comes behind it. -/
theorem readNumber_of_spells {text rest : List Char} {v : Value} {sizes : List Nat}
    (number : SpellsNumber text v sizes) (ends : Ends rest) :
    Reaches sizes (readNumber (text ++ rest)) (v, rest) := by
  have stop := ends.not_numeric
  cases number with
  | @int negative whole isWhole =>
    have point := splitFraction_of_spells .absent fun c head => ⟨(stop c head).1, (stop c head).2.1⟩
    have scale := splitExponent_of_spells .absent fun c head => ⟨(stop c head).1, (stop c head).2.2⟩
    have read := readNumber_of_split negative isWhole (fun c head => (stop c head).1) point scale
    rw [if_pos ⟨rfl, rfl⟩] at read
    rw [List.append_assoc, read]
    by_cases long : Numeral.digitLimit < whole.length
    · rw [Reaches, List.find?_cons_of_pos (by simpa using long), if_pos long]
      exact ⟨_, rfl⟩
    · rw [Reaches, List.find?_cons_of_neg (by simpa using long), if_neg long]
      rfl
  | @real negative whole point fraction mark exponent? isWhole fractional scaled inexact =>
    have scale := splitExponent_of_spells scaled fun c head => ⟨(stop c head).1, (stop c head).2.2⟩
    -- Behind the digits stands a point or a mark or what is behind the number, never a digit.
    have behind : ∀ c ∈ (mark ++ rest).head?, c.isDigit = false ∧ c ≠ '.' := by
      cases scaled with
      | absent => exact fun c head => ⟨(stop c head).1, (stop c head).2.1⟩
      | _ marked => 
        rintro c ⟨⟩
        rcases marked with rfl | rfl <;> decide
    have split := splitFraction_of_spells fractional behind
    have begins : ∀ c ∈ (point ++ (mark ++ rest)).head?, c.isDigit = false := by
      cases fractional with
      | absent => exact fun c head => (behind c head).1
      | present run =>
        rintro c ⟨⟩
        rfl
    have read := readNumber_of_split negative isWhole begins split scale
    have other : ¬ (fraction = [] ∧ exponent? = none) := by
      rintro ⟨rfl, rfl⟩
      simp at inexact
    rw [if_neg other] at read
    simpa [List.append_assoc] using reaches_nil.mpr read

/-- A number is no word, even if it is negative. -/
theorem readPlain_number (negative : Bool) {c : Char} (digit : c.isDigit = true)
    (rest : List Char) :
    readPlain (signChars negative ++ c :: rest) = readNumber (signChars negative ++ c :: rest) := by
  have other {d : Char} (letter : d.isDigit = false) : d ≠ c := (ne_of_isDigit digit letter).symm
  rw [readPlain, List.find?_eq_none.mpr]
  cases negative <;> simp [signChars, words, other]

theorem readPlain_of_spells {text rest : List Char} {v : Value} {sizes : List Nat}
    (number : SpellsNumber text v sizes) (ends : Ends rest) :
    Reaches sizes (readPlain (text ++ rest)) (v, rest) := by
  have read := readNumber_of_spells number ends
  obtain ⟨negative, c, more, rfl, digit⟩ := number.exists_digit
  rw [List.append_assoc, List.cons_append] at read ⊢
  rwa [readPlain_number negative digit]

end Patternwright.Json
