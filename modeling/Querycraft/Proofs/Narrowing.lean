/-
  Querycraft.Proofs.Narrowing — an integer reaches the server whole or not at all.

  The server has integers of two, four and eight bytes, each with its range. On the wire they
  are in two's complement, the highest byte first; `signed` reads them back. Proved, for
  every 64-bit integer, every type of the server and whatever was written before
  (`integers_bind_exactly`):
  - binding succeeds exactly for an integer type whose range has the integer in it;
  - it appends as many bytes as the type is wide, and these, and no others of that number,
    read back as the integer;
  - a refusal appends nothing;
  - the check of the type beforehand changes none of this.

  Bytes and numbers are tied for every width at once: `unsigned_bigEndian` and
  `bigEndian_unsigned` make the two directions inverse.
-/

import Querycraft.Proofs.Arithmetic
import Querycraft.Wire

namespace Querycraft

/-! ## Numbers and their bytes -/

namespace Text.Hex

/-- The number that bytes stand for, the highest first. -/
def unsigned (bytes : List UInt8) : Nat := bytes.foldl (fun n byte => n * 256 + byte.toNat) 0

theorem unsigned_concat (bytes : List UInt8) (last : UInt8) :
    unsigned (bytes ++ [last]) = unsigned bytes * 256 + last.toNat := by
  simp [unsigned, List.foldl_append]

theorem length_bigEndian (width n : Nat) : (bigEndian width n).length = width := by
  simp [bigEndian]

/-- One byte more is the lowest one, behind those of the number without it. -/
theorem bigEndian_succ (width n : Nat) : bigEndian (width + 1) n = bigEndian width (n / 256) ++ [n.toUInt8] := by
  have higher : ∀ i ∈ List.range width,
      (n / Nat.pow 256 (width + 1 - 1 - i)).toUInt8 = (n / 256 / Nat.pow 256 (width - 1 - i)).toUInt8 := by
    intro i member
    have inside : i < width := List.mem_range.mp member
    have power : Nat.pow 256 (width + 1 - 1 - i) = 256 * Nat.pow 256 (width - 1 - i) := by
      rw [show width + 1 - 1 - i = (width - 1 - i) + 1 by omega]
      exact Nat.pow_succ'
    rw [power, Nat.div_div_eq_div_mul]
  have lowest : n / Nat.pow 256 (width + 1 - 1 - width) = n := by
    rw [show width + 1 - 1 - width = 0 by omega]
    exact Nat.div_one n
  rw [bigEndian, List.range_succ, List.map_append, List.map_congr_left higher, List.map_singleton, lowest]
  rfl

/-- Bytes hold a number up to what their width has room for. -/
theorem unsigned_bigEndian (width n : Nat) : unsigned (bigEndian width n) = n % Nat.pow 256 width := by
  induction width generalizing n with
  | zero => exact (Nat.mod_one n).symm
  | succ width ih =>
    have byte : n.toUInt8.toNat = n % 256 := UInt8.toNat_ofNat
    have split : n % Nat.pow 256 (width + 1) = n % 256 + 256 * (n / 256 % Nat.pow 256 width) := by
      rw [show Nat.pow 256 (width + 1) = 256 * Nat.pow 256 width from Nat.pow_succ']
      exact Nat.mod_mul
    rw [bigEndian_succ, unsigned_concat, ih, byte, split]
    omega

/-- Every list of bytes is that of the number it stands for. -/
theorem bigEndian_unsigned (bytes : List UInt8) : bigEndian bytes.length (unsigned bytes) = bytes := by
  generalize width : bytes.length = w
  induction w generalizing bytes with
  | zero =>
    rw [List.eq_nil_of_length_eq_zero width]
    rfl
  | succ w ih =>
    obtain rfl | ⟨front, last, rfl⟩ := List.eq_nil_or_concat bytes
    · cases width
    · rw [List.concat_eq_append, List.length_append, List.length_singleton, Nat.add_right_cancel_iff] at width
      have small : last.toNat < 256 := last.toNat_lt
      have higher : (unsigned front * 256 + last.toNat) / 256 = unsigned front := by omega
      have lowest : (unsigned front * 256 + last.toNat).toUInt8 = last := by
        apply UInt8.toNat_inj.mp
        rw [show (unsigned front * 256 + last.toNat).toUInt8.toNat = _ from UInt8.toNat_ofNat]
        omega
      rw [List.concat_eq_append, unsigned_concat, bigEndian_succ, higher, lowest, ih front width]

theorem unsigned_lt (bytes : List UInt8) : unsigned bytes < Nat.pow 256 bytes.length := by
  have bounded : unsigned bytes = unsigned bytes % Nat.pow 256 bytes.length := by
    rw [← unsigned_bigEndian, bigEndian_unsigned]
  rw [bounded]
  exact Nat.mod_lt _ (Nat.pow_pos (by decide))

end Text.Hex

namespace Wire

open Text.Hex

/-! ## Two's complement -/

/-- The integer whose two's complement the bytes are: the upper half of the numbers stands
    for the negative ones. -/
def signed (bytes : List UInt8) : Int :=
  if 2 * unsigned bytes < Nat.pow 256 bytes.length then unsigned bytes
  else unsigned bytes - Nat.pow 256 bytes.length

/-- The integers that `width` bytes have room for, half of them below zero. -/
def Fits (width : Nat) (i : Int) : Prop := -(Nat.pow 256 width : Int) ≤ 2 * i ∧ 2 * i < (Nat.pow 256 width : Int)

/-- Bytes of one width that stand for the same integer are the same. -/
theorem signed_injective {bytes other : List UInt8} (width : bytes.length = other.length)
    (same : signed bytes = signed other) : bytes = other := by
  have bound := unsigned_lt bytes
  have bound' := unsigned_lt other
  have number : unsigned bytes = unsigned other := by
    unfold signed at same
    rw [width] at bound same
    split at same <;> split at same <;> omega
  rw [← bigEndian_unsigned bytes, ← bigEndian_unsigned other, width, number]

theorem length_integerBytes (width : Nat) (i : Int) : (integerBytes width i).length = width :=
  length_bigEndian _ _

theorem unsigned_integerBytes (width : Nat) (i : Int) :
    (unsigned (integerBytes width i) : Int) = i % (Nat.pow 256 width : Int) := by
  have power : Nat.pow 2 (8 * width) = Nat.pow 256 width := Nat.pow_mul 2 8 width
  have positive : 0 < Nat.pow 256 width := Nat.pow_pos (by decide)
  have least : 0 ≤ i % (Nat.pow 256 width : Int) := Int.emod_nonneg _ (by omega)
  rw [integerBytes, unsigned_bigEndian, power, Int.natCast_emod,
    show ((i.emod (Nat.pow 256 width)).toNat : Int) = i % (Nat.pow 256 width : Int) from Int.toNat_of_nonneg least]
  exact Int.emod_emod i _

/-- An integer that fits is read back from its low bytes. -/
theorem signed_integerBytes {width : Nat} {i : Int} (fits : Fits width i) : signed (integerBytes width i) = i := by
  have number := unsigned_integerBytes width i
  obtain ⟨least, greatest⟩ := fits
  unfold signed
  rw [length_integerBytes]
  by_cases negative : i < 0
  · -- Below zero the bytes hold the integer plus the modulus, which lies in the upper half.
    rw [Int.emod_eq_add_self_emod, Int.emod_eq_of_lt (by omega) (by omega)] at number
    split <;> omega
  · rw [Int.emod_eq_of_lt (by omega) (by omega)] at number
    split <;> omega

/-! ## The types of integers -/

inductive IntegerType where
  | int2
  | int4
  | int8

namespace IntegerType

def serverType : IntegerType → ServerType
  | .int2 => .builtin "int2"
  | .int4 => .builtin "int4"
  | .int8 => .builtin "int8"

def width : IntegerType → Nat
  | .int2 => 2
  | .int4 => 4
  | .int8 => 8

def least : IntegerType → Int
  | .int2 => -32768
  | .int4 => -2147483648
  | .int8 => -9223372036854775808

def greatest : IntegerType → Int
  | .int2 => 32767
  | .int4 => 2147483647
  | .int8 => 9223372036854775807

def InRange (t : IntegerType) (i : Int) : Prop := t.least ≤ i ∧ i ≤ t.greatest

/-- The range of a type is what its bytes have room for. -/
theorem inRange_iff_fits (t : IntegerType) (i : Int) : t.InRange i ↔ Fits t.width i := by
  have two : Nat.pow 256 2 = 65536 := rfl
  have four : Nat.pow 256 4 = 4294967296 := rfl
  have eight : Nat.pow 256 8 = 18446744073709551616 := rfl
  cases t <;> simp only [InRange, least, greatest, Fits, width, two, four, eight] <;> omega

theorem isKnown_serverType (t : IntegerType) : t.serverType.isKnown = true := by
  cases t <;> decide

end IntegerType

/-! ## Integers on the wire -/

/-- Narrowing to some bytes succeeds exactly where the integer fits them. -/
theorem narrowInteger_eq_ok_iff {width : Nat} (positive : 0 < width) {i : Int} {sent : Sent} :
    narrowInteger width i = .ok sent ↔ Fits width i ∧ sent = .bytes (integerBytes width i) := by
  have half : Nat.pow 256 width = 2 * Nat.pow 2 (8 * width - 1) := by
    rw [show Nat.pow 256 width = Nat.pow 2 (8 * width) from (Nat.pow_mul 2 8 width).symm,
      show 8 * width = 8 * width - 1 + 1 by omega]
    exact Nat.pow_succ'
  simp only [narrowInteger, Fits, half]
  constructor
  · intro sends
    split at sends
    · cases sends
    · split at sends
      · cases sends
      · cases sends
        exact ⟨by omega, rfl⟩
  · rintro ⟨⟨least, greatest⟩, rfl⟩
    rw [if_neg (by omega), if_neg (by omega)]

theorem encode_integerType (t : IntegerType) {i : Int64} {sent : Sent} :
    encode (.int i) t.serverType = .ok sent ↔
      t.InRange i.toInt ∧ sent = .bytes (integerBytes t.width i.toInt) := by
  rw [t.inRange_iff_fits]
  cases t with
  | int2 => exact narrowInteger_eq_ok_iff (by decide)
  | int4 => exact narrowInteger_eq_ok_iff (by decide)
  | int8 =>
    have fits : Fits 8 i.toInt := (IntegerType.inRange_iff_fits .int8 _).mp (Value.inRange_toInt i)
    show Except.ok (Sent.bytes (integerBytes 8 i.toInt)) = Except.ok sent ↔ _
    rw [Except.ok.injEq, eq_comm]
    exact (and_iff_right fits).symm

theorem encode_int_of_other {type : ServerType} (other : ∀ t : IntegerType, t.serverType ≠ type) (i : Int64) :
    encode (.int i) type = .error (.kind .int type) := by
  have two : type ≠ .builtin "int2" := (other .int2).symm
  have four : type ≠ .builtin "int4" := (other .int4).symm
  have eight : type ≠ .builtin "int8" := (other .int8).symm
  simp only [encode, two, four, eight, if_false]
  rfl

/-- An integer has a form of a type exactly if that is an integer type with room for it. -/
theorem encode_int_eq_ok_iff {i : Int64} {type : ServerType} {sent : Sent} :
    encode (.int i) type = .ok sent ↔
      ∃ t : IntegerType, t.serverType = type ∧ t.InRange i.toInt ∧ sent = .bytes (integerBytes t.width i.toInt) := by
  constructor
  · intro sends
    by_cases integer : ∃ t : IntegerType, t.serverType = type
    · obtain ⟨t, rfl⟩ := integer
      exact ⟨t, rfl, (encode_integerType t).mp sends⟩
    · rw [encode_int_of_other (not_exists.mp integer)] at sends
      cases sends
  · rintro ⟨t, rfl, form⟩
    exact (encode_integerType t).mpr form

theorem write_int_eq_ok_iff {i : Int64} {type : ServerType} {buffer after : List UInt8} {isNull : Bool} :
    write (.int i) type buffer = (.ok isNull, after) ↔
      ∃ t : IntegerType, t.serverType = type ∧ t.InRange i.toInt ∧ isNull = false ∧
        after = buffer ++ integerBytes t.width i.toInt := by
  constructor
  · intro written
    unfold write at written
    split at written
    · rename_i sends
      obtain ⟨t, -, -, content⟩ := encode_int_eq_ok_iff.mp sends
      cases content
    · rename_i sends
      obtain ⟨t, same, inside, content⟩ := encode_int_eq_ok_iff.mp sends
      cases content
      cases written
      exact ⟨t, same, inside, rfl, rfl⟩
    · cases written
  · rintro ⟨t, same, inside, rfl, rfl⟩
    have sends := encode_int_eq_ok_iff.mpr ⟨t, same, inside, rfl⟩
    simp only [write, sends]

/-- Whatever is refused, the buffer keeps what it held. -/
theorem write_error {value : Value} {type : ServerType} {buffer after : List UInt8} {refusal : Refusal}
    (h : write value type buffer = (.error refusal, after)) : after = buffer := by
  unfold write at h
  split at h <;> cases h
  rfl

theorem writeChecked_of_known {type : ServerType} (known : type.isKnown = true) (value : Value) (buffer : List UInt8) :
    writeChecked value type buffer = (some (write value type buffer).1, (write value type buffer).2) := by
  rw [writeChecked, if_pos known]

/-- Binding an integer succeeds exactly for an integer type that has it in its range. It then
    appends the bytes of that width that read back as the integer, and otherwise nothing;
    and the check of the type beforehand lets every integer type pass. -/
theorem integers_bind_exactly (i : Int64) (type : ServerType) (buffer : List UInt8) :
    ((∃ isNull after, write (.int i) type buffer = (.ok isNull, after)) ↔
        ∃ t : IntegerType, t.serverType = type ∧ t.InRange i.toInt) ∧
      (∀ isNull after, write (.int i) type buffer = (.ok isNull, after) →
        isNull = false ∧ ∃ (t : IntegerType) (bytes : List UInt8), t.serverType = type ∧ after = buffer ++ bytes ∧
          ∀ other, other = bytes ↔ other.length = t.width ∧ signed other = i.toInt) ∧
      (∀ refusal after, write (.int i) type buffer = (.error refusal, after) → after = buffer) ∧
      ∀ t : IntegerType, t.serverType = type →
        writeChecked (.int i) type buffer =
          (some (write (.int i) type buffer).1, (write (.int i) type buffer).2) := by
  refine ⟨⟨?_, ?_⟩, ?_, fun _ _ => write_error, ?_⟩
  · rintro ⟨isNull, after, written⟩
    obtain ⟨t, same, inside, -, -⟩ := write_int_eq_ok_iff.mp written
    exact ⟨t, same, inside⟩
  · rintro ⟨t, same, inside⟩
    exact ⟨_, _, write_int_eq_ok_iff.mpr ⟨t, same, inside, rfl, rfl⟩⟩
  · intro isNull after written
    obtain ⟨t, same, inside, rfl, rfl⟩ := write_int_eq_ok_iff.mp written
    have width := length_integerBytes t.width i.toInt
    have reads := signed_integerBytes ((t.inRange_iff_fits _).mp inside)
    refine ⟨rfl, t, _, same, rfl, fun other => ⟨?_, ?_⟩⟩
    · rintro rfl
      exact ⟨width, reads⟩
    · intro ⟨sameWidth, sameInteger⟩
      exact signed_injective (sameWidth.trans width.symm) (sameInteger.trans reads.symm)
  · rintro t rfl
    exact writeChecked_of_known t.isKnown_serverType _ _

end Wire

end Querycraft
