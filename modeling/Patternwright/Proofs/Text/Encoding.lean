import Patternwright.Proofs.Result
import Patternwright.Text.Encoding

/-!
# Texts in UTF-8

Every text is read back from its bytes, whether they are taken as a whole or block by block. A block
may end inside a character. So the reading is described between any two states that it can be in:
between characters, or inside one that has been begun. Such readings are put together and cut
anywhere, and that is all that the blocks need.

## Main definitions

* `Decodes` — bytes are read from one state to another

## Main results

* `Decodes.cut` — a reading can stop after any byte
* `decodes_encode` — a text is read back from its bytes
* `decodeInBlocks_encode` — also in blocks
-/

namespace Patternwright.Encoding

/-- Bytes are read from one state to another, and are the characters of a text on the way. -/
inductive Decodes : Option Begun → List UInt8 → List Char → Option Begun → Prop
  | nil (begun? : Option Begun) : Decodes begun? [] [] begun?
  | single {b : UInt8} {rest : List UInt8} {text : List Char} {last? : Option Begun}
    (ascii : b < 0x80) (later : Decodes none rest text last?) :
    Decodes none (b :: rest) (Char.ofNat b.toNat :: text) last?
  | start {b : UInt8} {begun : Begun} {rest : List UInt8} {text : List Char} {last? : Option Begun}
    (long : ¬ b < 0x80) (begins : Begun.ofByte? b = some begun)
    (later : Decodes (some begun) rest text last?) : Decodes none (b :: rest) text last?
  | step {b : UInt8} {begun : Begun} {rest : List UInt8} {text : List Char} {last? : Option Begun}
    (within : begun.low ≤ b ∧ b ≤ begun.high) (more : (begun.push b).missing ≠ 0)
    (later : Decodes (some (begun.push b)) rest text last?) :
    Decodes (some begun) (b :: rest) text last?
  | finish {b : UInt8} {begun : Begun} {rest : List UInt8} {text : List Char}
    {last? : Option Begun} (within : begun.low ≤ b ∧ b ≤ begun.high)
    (done : (begun.push b).missing = 0) (later : Decodes none rest text last?) :
    Decodes (some begun) (b :: rest) (Char.ofNat (begun.push b).code :: text) last?

variable {begun? middle? last? : Option Begun} {bytes more : List UInt8} {text other : List Char}

/-- The place of the bytes does not matter, since only faults tell it. -/
theorem Decodes.decodeFrom_eq (decodes : Decodes begun? bytes text last?) (place : Nat) :
    decodeFrom begun? place bytes = .ok (text, last?) := by
  induction decodes generalizing place with
  | nil begun? => rfl
  | single ascii later ih =>
    rw [decodeFrom, if_pos ascii, ih]
    rfl
  | start long begins later ih =>
    rw [decodeFrom, if_neg long, begins]
    exact ih (place + 1)
  | step within more later ih =>
    rw [decodeFrom, if_neg (by simpa using within), if_neg more]
    exact ih (place + 1)
  | finish within done later ih =>
    rw [decodeFrom, if_neg (by simpa using within), if_pos done, ih]
    rfl

theorem Decodes.append (first : Decodes begun? bytes text middle?)
    (second : Decodes middle? more other last?) :
    Decodes begun? (bytes ++ more) (text ++ other) last? := by
  induction first with
  | nil begun? => exact second
  | single ascii later ih => exact .single ascii (ih second)
  | start long begins later ih => exact .start long begins (ih second)
  | step within more later ih => exact .step within more (ih second)
  | finish within done later ih => exact .finish within done (ih second)

/-- A reading can stop after any byte. -/
theorem Decodes.cut (decodes : Decodes begun? bytes text last?) (count : Nat) :
    ∃ first middle? second, Decodes begun? (bytes.take count) first middle? ∧
      Decodes middle? (bytes.drop count) second last? ∧ text = first ++ second := by
  induction decodes generalizing count with
  | nil begun? => exact ⟨[], begun?, [], by simpa using .nil begun?, by simpa using .nil begun?, rfl⟩
  | single ascii later ih =>
    cases count with
    | zero => exact ⟨[], none, _, .nil none, .single ascii later, rfl⟩
    | succ count =>
      obtain ⟨first, middle?, second, before, behind, rfl⟩ := ih count
      exact ⟨_, middle?, second, .single ascii before, behind, rfl⟩
  | start long begins later ih =>
    cases count with
    | zero => exact ⟨[], none, _, .nil none, .start long begins later, rfl⟩
    | succ count =>
      obtain ⟨first, middle?, second, before, behind, rfl⟩ := ih count
      exact ⟨first, middle?, second, .start long begins before, behind, rfl⟩
  | step within more later ih =>
    cases count with
    | zero => exact ⟨[], _, _, .nil _, .step within more later, rfl⟩
    | succ count =>
      obtain ⟨first, middle?, second, before, behind, rfl⟩ := ih count
      exact ⟨first, middle?, second, .step within more before, behind, rfl⟩
  | finish within done later ih =>
    cases count with
    | zero => exact ⟨[], _, _, .nil _, .finish within done later, rfl⟩
    | succ count =>
      obtain ⟨first, middle?, second, before, behind, rfl⟩ := ih count
      exact ⟨_, middle?, second, .finish within done before, behind, rfl⟩

/-! ### One character -/

/-- The byte with six bits of a character. -/
def trailing (bits : Nat) : UInt8 := UInt8.ofNat (bits + 0x80)

theorem toNat_trailing {bits : Nat} (six : bits < 64) : (trailing bits).toNat = bits + 0x80 :=
  UInt8.toNat_ofNat_of_lt' (by change bits + 0x80 < 256; omega)

theorem ofByte?_two : ∀ bits < 32, 2 ≤ bits → Begun.ofByte? (UInt8.ofNat (bits + 0xC0)) =
    some ⟨UInt8.ofNat (bits + 0xC0), 1, bits, 1, 0x80, 0xBF⟩ := by
  decide

theorem ofByte?_three : ∀ bits < 16, Begun.ofByte? (UInt8.ofNat (bits + 0xE0)) =
    some ⟨UInt8.ofNat (bits + 0xE0), 1, bits, 2, if bits = 0 then 0xA0 else 0x80,
      if bits = 13 then 0x9F else 0xBF⟩ := by
  decide

theorem ofByte?_four : ∀ bits < 5, Begun.ofByte? (UInt8.ofNat (bits + 0xF0)) =
    some ⟨UInt8.ofNat (bits + 0xF0), 1, bits, 3, if bits = 0 then 0x90 else 0x80,
      if bits = 4 then 0x8F else 0xBF⟩ := by
  decide

section Trailing

variable {begun : Begun} {bits : Nat} {rest : List UInt8}

theorem le_trailing (low : Nat) (six : bits < 64) (least : low ≤ bits + 0x80) :
    UInt8.ofNat low ≤ trailing bits := by
  rw [UInt8.le_iff_toNat_le, toNat_trailing six,
    UInt8.toNat_ofNat_of_lt' (by change low < 256; omega)]
  exact least

theorem trailing_le (high : Nat) (six : bits < 64) (most : bits + 0x80 ≤ high) (byte : high < 256) :
    trailing bits ≤ UInt8.ofNat high := by
  rw [UInt8.le_iff_toNat_le, toNat_trailing six, UInt8.toNat_ofNat_of_lt' byte]
  exact most

/-- A byte with six bits can always follow where no other bounds are set. -/
theorem trailing_within (six : bits < 64) : 0x80 ≤ trailing bits ∧ trailing bits ≤ 0xBF :=
  ⟨le_trailing 0x80 six (by omega), trailing_le 0xBF six (by omega) (by decide)⟩

theorem code_push_trailing (six : bits < 64) :
    (begun.push (trailing bits)).code = begun.code * 64 + bits := by
  rw [Begun.push, toNat_trailing six, Nat.add_sub_cancel]

/-- The last byte of a character. -/
theorem decodes_last {code : Nat} (six : bits < 64)
    (within : begun.low ≤ trailing bits ∧ trailing bits ≤ begun.high) (missing : begun.missing = 1)
    (whole : begun.code * 64 + bits = code) :
    Decodes (some begun) [trailing bits] [Char.ofNat code] none := by
  have done : (begun.push (trailing bits)).missing = 0 := by rw [Begun.push, missing]
  rw [← whole, ← code_push_trailing six]
  exact .finish within done (.nil none)

/-- A byte of a character that is not the last one. -/
theorem decodes_more (six : bits < 64)
    (within : begun.low ≤ trailing bits ∧ trailing bits ≤ begun.high) (missing : 2 ≤ begun.missing)
    (later : Decodes (some ⟨begun.first, begun.length + 1, begun.code * 64 + bits,
      begun.missing - 1, 0x80, 0xBF⟩) rest text last?) :
    Decodes (some begun) (trailing bits :: rest) text last? := by
  have more : (begun.push (trailing bits)).missing ≠ 0 := by
    change begun.missing - 1 ≠ 0
    omega
  refine .step within more ?_
  rwa [← code_push_trailing six] at later

end Trailing

/-- The first byte of a character with more bytes. -/
theorem not_single {b : Nat} (least : 0x80 ≤ b) (most : b < 0x100) : ¬ UInt8.ofNat b < 0x80 := by
  rw [UInt8.lt_iff_toNat_lt, UInt8.toNat_ofNat_of_lt' most]
  exact Nat.not_lt.mpr least

section Lengths

variable {code : Nat}

theorem decodes_two (least : 0x80 ≤ code) (most : code < 0x800) :
    Decodes none [UInt8.ofNat (code / 64 + 0xC0), trailing (code % 64)] [Char.ofNat code] none := by
  have six : code % 64 < 64 := Nat.mod_lt code (by decide)
  have whole : code / 64 * 64 + code % 64 = code := by omega
  exact .start (not_single (by omega) (by omega)) (ofByte?_two _ (by omega) (by omega))
    (decodes_last six (trailing_within six) rfl whole)

theorem decodes_three (least : 0x800 ≤ code) (most : code < 0x10000)
    (single : code < 0xD800 ∨ 0xDFFF < code) :
    Decodes none [UInt8.ofNat (code / 4096 + 0xE0), trailing (code / 64 % 64), trailing (code % 64)]
      [Char.ofNat code] none := by
  have six (n : Nat) : n % 64 < 64 := Nat.mod_lt n (by decide)
  have whole : (code / 4096 * 64 + code / 64 % 64) * 64 + code % 64 = code := by omega
  refine .start (not_single (by omega) (by omega)) (ofByte?_three _ (by omega))
    (decodes_more (six _) ⟨?_, ?_⟩ (Nat.le_refl 2)
      (decodes_last (six _) (trailing_within (six _)) rfl whole))
  · -- The second byte is not too small, or else two bytes would have been enough.
    dsimp only
    split
    · exact le_trailing 0xA0 (six _) (by omega)
    · exact (trailing_within (six _)).1
  · -- It is not too large either, or else the code would be a half of a pair.
    dsimp only
    split
    · exact trailing_le 0x9F (six _) (by omega) (by decide)
    · exact (trailing_within (six _)).2

theorem decodes_four (least : 0x10000 ≤ code) (most : code < 0x110000) :
    Decodes none [UInt8.ofNat (code / 262144 + 0xF0), trailing (code / 4096 % 64),
      trailing (code / 64 % 64), trailing (code % 64)] [Char.ofNat code] none := by
  have six (n : Nat) : n % 64 < 64 := Nat.mod_lt n (by decide)
  have whole : ((code / 262144 * 64 + code / 4096 % 64) * 64 + code / 64 % 64) * 64 + code % 64 =
      code := by omega
  refine .start (not_single (by omega) (by omega)) (ofByte?_four _ (by omega))
    (decodes_more (six _) ⟨?_, ?_⟩ (Nat.le_succ 2)
      (decodes_more (six _) (trailing_within (six _)) (Nat.le_refl 2)
        (decodes_last (six _) (trailing_within (six _)) rfl whole)))
  · -- The second byte is not too small, or else three bytes would have been enough.
    dsimp only
    split
    · exact le_trailing 0x90 (six _) (by omega)
    · exact (trailing_within (six _)).1
  · -- It is not too large either, or else the code would be past the last one.
    dsimp only
    split
    · exact trailing_le 0x8F (six _) (by omega) (by decide)
    · exact (trailing_within (six _)).2

end Lengths

theorem decodes_one {code : Nat} (ascii : code < 0x80) :
    Decodes none [UInt8.ofNat code] [Char.ofNat code] none := by
  have byte : (UInt8.ofNat code).toNat = code :=
    UInt8.toNat_ofNat_of_lt' (Nat.lt_trans ascii (by decide))
  have small : UInt8.ofNat code < 0x80 := by
    rw [UInt8.lt_iff_toNat_lt, byte]
    exact ascii
  conv in Char.ofNat code => rw [← byte]
  exact .single small (.nil none)

/-- A character is read back from its bytes. -/
theorem decodes_encodeChar (c : Char) : Decodes none (String.utf8EncodeChar c) [c] none := by
  have valid : c.toNat < 0xD800 ∨ 0xDFFF < c.toNat ∧ c.toNat < 0x110000 := c.valid
  rw [String.utf8EncodeChar]
  conv in [c] => rw [← Char.ofNat_toNat c]
  rw [Char.toNat] at valid ⊢
  generalize c.val.toNat = code at valid ⊢
  -- The first byte has room for all that is left of the code.
  split
  · exact decodes_one (by omega)
  split
  · rw [Nat.mod_eq_of_lt (by omega : code / 64 < 32)]
    exact decodes_two (by omega) (by omega)
  split
  · rw [Nat.mod_eq_of_lt (by omega : code / 4096 < 16)]
    exact decodes_three (by omega) (by omega) (by omega)
  · rw [Nat.mod_eq_of_lt (by omega : code / 262144 < 8)]
    exact decodes_four (by omega) (by omega)

/-! ### Texts -/

/-- A text is read back from its bytes. -/
theorem decodes_encode (text : List Char) : Decodes none (encode text) text none := by
  induction text with
  | nil => exact .nil none
  | cons c text ih => exact (decodes_encodeChar c).append ih

theorem decodeWhole_encode (text : List Char) : decodeWhole (encode text) = .ok text := by
  rw [decodeWhole, (decodes_encode text).decodeFrom_eq]
  rfl

/-- What is read in one go is also read block by block. -/
theorem Decodes.decodeBlocks_eq (decodes : Decodes begun? bytes text none) :
    decodeBlocks begun? bytes = .ok text := by
  induction begun?, bytes using decodeBlocks.induct generalizing text with
  | case1 begun? bytes ih =>
    obtain ⟨first, middle?, second, before, behind, rfl⟩ := decodes.cut blockSize
    rw [decodeBlocks, before.decodeFrom_eq, ok_bind]
    dsimp only
    split
    · next last =>
      -- Nothing is behind the last block, so it ends between characters.
      rw [List.drop_of_length_le last] at behind
      cases behind
      rw [List.append_nil]
      rfl
    · next more =>
      rw [ih middle? more behind]
      rfl

/-- A text is read back from its bytes in blocks. -/
theorem decodeInBlocks_encode (text : List Char) : decodeInBlocks (encode text) = .ok text :=
  (decodes_encode text).decodeBlocks_eq

end Patternwright.Encoding
