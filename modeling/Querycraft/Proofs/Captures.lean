/-
  Querycraft.Proofs.Captures — what is read back from captured data.

  A captured document is read by a chain of members, and at each of them a scalar comes out
  of the document while an array or an object stays in it. `Json.Leads` says which part of a
  document a path leads to. Integers of a document go up to 2^64 - 1 and those of a value
  to 2^63 - 1; what is between becomes a float. The floats from 2^63 to 2^64 are 2048 apart:
  the float of 2048 * q has the bits 4886405595696988160 + q. Proved:
  (1) a chain of members has a value exactly if the path leads somewhere, and it is the value
      of the part found there (`evaluate_chain`);
  (2) an integer from 2^63 on becomes the nearest of these floats, of two equally near ones
      the even one (`toBits_toFloat`);
  (3) documents with the same value are the same, or are numbers that become the same float
      (`ofJson_eq_iff`); so a value tells its document, except for the integers from 2^63 on
      and the floats from 2^63 to 2^64 (`captured_documents_read_back`). Two integers that
      are neighbours there have one value (`outsized_integers_collide`).
-/

import Querycraft.Decimal.Binary
import Querycraft.Proofs.Arithmetic

namespace Querycraft

/-! ## (1) Chains of members -/

inductive Json.Leads : Json → List String → Json → Prop
  | here (document : Json) : Leads document [] document
  | member {before behind : List (String × Json)} {name : String} {child part : Json} {path : List String} :
      (∀ other ∈ before, name ≠ other.1) → Leads child path part →
      Leads (.object (before ++ (name, child) :: behind)) (name :: path) part

namespace Json

theorem leads_cons_iff {document part : Json} {name : String} {path : List String} :
    document.Leads (name :: path) part ↔ ∃ child, document.member? name = some child ∧ child.Leads path part := by
  constructor
  · intro h
    cases h with
    | member first rest =>
      refine ⟨_, List.lookup_eq_some_iff.mpr ⟨_, _, rfl, ?_⟩, rest⟩
      simpa using first
  · intro h
    obtain ⟨child, found, rest⟩ := h
    cases document with
    | object members =>
      obtain ⟨before, behind, rfl, first⟩ := List.lookup_eq_some_iff.mp found
      refine .member ?_ rest
      simpa using first
    | _ => cases found

end Json

namespace Expr

def chain (e : Expr) (path : List String) : Expr := path.foldl (fun target name => .member target name none) e

theorem member?_ofJson (document : Json) (name : String) :
    (Value.ofJson document).member? name = (document.member? name).map Value.ofJson := by
  cases document with
  | number n =>
    cases n with
    | integer i =>
      simp only [Value.ofJson, Value.ofNumber]
      split <;> rfl
    | float f => rfl
  | _ => rfl

theorem evaluate_chain_error {e : Expr} {error : Error} (h : e.evaluate = .error error) (path : List String) :
    (e.chain path).evaluate = .error error := by
  induction path generalizing e with
  | nil => exact h
  | cons name rest ih =>
    refine ih (e := .member e name none) ?_
    rw [evaluate, h]
    rfl

/-- (1) A chain that starts at a document has the value of the part that the path leads to. -/
theorem evaluate_chain {e : Expr} {document : Json} (h : e.evaluate = .ok (Value.ofJson document)) (path : List String)
    (v : Value) : (e.chain path).evaluate = .ok v ↔ ∃ part, document.Leads path part ∧ v = Value.ofJson part := by
  induction path generalizing e document with
  | nil =>
    rw [show e.chain [] = e from rfl, h]
    constructor
    · intro same
      exact ⟨document, .here document, (Except.ok.inj same).symm⟩
    · intro ⟨part, here, value⟩
      cases here
      rw [value]
  | cons name rest ih =>
    have first : (Expr.member e name none).evaluate = applyMember (Value.ofJson document) name := by
      rw [evaluate, h]
      rfl
    rw [show e.chain (name :: rest) = (Expr.member e name none).chain rest from rfl]
    unfold applyMember at first
    rw [member?_ofJson] at first
    simp only [Json.leads_cons_iff]
    cases found : document.member? name with
    | none =>
      rw [found] at first
      rw [evaluate_chain_error first]
      simp
    | some child =>
      rw [found] at first
      rw [ih first]
      simp

end Expr

/-! ## (2) The float of an integer -/

namespace Rounding

open Float.Model UnpackedFloat
open Decimal (roundHalfEven)

/-- A number in whole units, and what a shift keeps of the rest: whether it is half a unit or
    more, and whether it is something else than nothing and half a unit. -/
def cutOff (n unit : Nat) : ExtendedMantissa :=
  ⟨n / unit, decide (unit ≤ 2 * (n % unit)), decide (n % unit ≠ 0 ∧ 2 * (n % unit) ≠ unit)⟩

theorem shiftRightOne_cutOff {n unit : Nat} (h : 0 < unit) : (cutOff n unit).shiftRightOne = cutOff n (unit * 2) := by
  have small := Nat.mod_lt n h
  have rest : n / unit % 2 = 0 ∧ n % (unit * 2) = n % unit ∨ n / unit % 2 = 1 ∧ n % (unit * 2) = n % unit + unit := by
    rw [Nat.mod_mul]
    rcases Nat.mod_two_eq_zero_or_one (n / unit) with even | odd
    · simp [even]
    · simp [odd]
  unfold cutOff ExtendedMantissa.shiftRightOne
  rw [ExtendedMantissa.mk.injEq]
  generalize n % (unit * 2) = s at rest ⊢
  generalize n % unit = r at rest small ⊢
  dsimp only
  refine ⟨Nat.div_div_eq_div_mul n unit 2, ?_, ?_⟩
  · rw [Bool.eq_iff_iff, bne_iff_ne, decide_eq_true_iff]
    omega
  · rw [Bool.eq_iff_iff, Bool.or_eq_true, decide_eq_true_iff, decide_eq_true_iff, decide_eq_true_iff]
    omega

theorem shiftRight_cutOff (n k : Nat) : cutOff n 1 >>> k = cutOff n (Nat.pow 2 k) := by
  induction k with
  | zero => rfl
  | succ k ih =>
    have next : cutOff n 1 >>> (k + 1) = (cutOff n 1 >>> k).shiftRightOne := rfl
    rw [next, ih]
    exact shiftRightOne_cutOff (Nat.two_pow_pos k)

theorem roundedMantissa_cutOff (n unit : Nat) : (cutOff n unit).roundedMantissa = roundHalfEven n unit := by
  unfold cutOff roundHalfEven
  generalize n % unit = r
  dsimp only
  by_cases less : 2 * r < unit
  · rw [decide_eq_false (by omega : ¬ unit ≤ 2 * r), if_pos less]
    cases decide (r ≠ 0 ∧ 2 * r ≠ unit) <;> rfl
  · rw [decide_eq_true (by omega : unit ≤ 2 * r), if_neg less]
    by_cases more : unit < 2 * r
    · rw [decide_eq_true (by omega : r ≠ 0 ∧ 2 * r ≠ unit), if_pos more]
      rfl
    · rw [decide_eq_false (by omega : ¬ (r ≠ 0 ∧ 2 * r ≠ unit)), if_neg more]
      show n / unit + n / unit % 2 = _
      split <;> omega

theorem log2_eq {n k : Nat} (least : Nat.pow 2 k ≤ n) (below : n < Nat.pow 2 (k + 1)) : n.log2 = k := by
  have some : n ≠ 0 := Nat.ne_of_gt (Nat.lt_of_lt_of_le (Nat.two_pow_pos k) least)
  exact (Nat.log2_eq_iff some).mpr ⟨least, below⟩

/-- A number of `53 + k` bits is shifted by `k`. -/
theorem shiftToTargetExponent_eq {m : Nat} (e k : Nat) (size : m.log2 = 52 + k) :
    shiftToTargetExponent .binary64 m e .exact = (cutOff m (Nat.pow 2 k), ((e + k : Nat) : Int)) := by
  have target : Format.targetExponent .binary64 (totalExponent m e) = (e + k : Nat) := by
    have least : Format.minExponent .binary64 = -1074 := by decide
    have bits : Format.mantissaBits .binary64 = 53 := rfl
    rw [Format.targetExponent, least, bits, totalExponent, size]
    omega
  have whole : ExtendedMantissa.ofMantissaAndAccuracy m .exact = cutOff m 1 := by
    simp [cutOff, ExtendedMantissa.ofMantissaAndAccuracy, Nat.mod_one]
  have amount : (((e + k : Nat) : Int) - (e : Int)).toNat = k := by omega
  unfold shiftToTargetExponent shiftToExponent
  rw [target]
  dsimp only
  rw [amount, whole, shiftRight_cutOff]
  rfl

theorem finite_congr {m m' : Nat} {e : Int} (h : m = m') (positive : 0 < m) (positive' : 0 < m') :
    UnpackedFloat.finite .positive m e positive = .finite .positive m' e positive' := by
  subst h
  rfl

section Outsized

variable {n : Nat} (least : 9223372036854775808 ≤ n) (below : n < 18446744073709551616)
include least below

theorem roundHalfEven_bounds : 4503599627370496 ≤ roundHalfEven n 2048 ∧ roundHalfEven n 2048 ≤ 9007199254740992 := by
  unfold roundHalfEven
  dsimp only
  split
  · omega
  · split
    · omega
    · split <;> omega

theorem ofNat_eq : UnpackedFloat.ofNat .binary64 n = roundWithAccuracy .binary64 .positive n 0 .exact := by
  have size : n.log2 = 63 := log2_eq least below
  have positive : compare (n : Int) 0 = .gt := Int.compare_eq_gt.mpr (by omega)
  have target : Format.targetExponent .binary64 (((63 : Nat) : Int) + 1 + 0) = 11 := by decide
  unfold UnpackedFloat.ofNat UnpackedFloat.ofInt UnpackedFloat.normalize
  rw [positive]
  simp only [UnpackedFloat.round, Int.toNat_natCast, decreaseExponent, totalExponent, size, target]
  rfl

/-- The significand is the number in units of 2048. One that is rounded up to 2^53 has a bit
    too many and goes to the next exponent. -/
theorem roundWithAccuracy_eq : ∃ m e, ∃ positive : 0 < m,
    roundWithAccuracy .binary64 .positive n 0 .exact = .finite .positive m (e : Nat) positive ∧ m.log2 = 52 ∧
      (e = 11 ∧ m = roundHalfEven n 2048 ∨
        e = 12 ∧ m = 4503599627370496 ∧ roundHalfEven n 2048 = 9007199254740992) := by
  obtain ⟨low, high⟩ := roundHalfEven_bounds least below
  have first := shiftToTargetExponent_eq 0 11 (log2_eq (k := 63) least below)
  have rounded : (cutOff n (Nat.pow 2 11)).roundedMantissa = roundHalfEven n 2048 := roundedMantissa_cutOff n 2048
  unfold roundWithAccuracy
  rw [show (0 : Int) = ((0 : Nat) : Int) from rfl, first]
  dsimp only
  rw [rounded]
  generalize roundHalfEven n 2048 = q at low high ⊢
  by_cases full : q = 9007199254740992
  · subst full
    exact ⟨4503599627370496, 12, by decide, rfl, by decide, .inr ⟨rfl, rfl, rfl⟩⟩
  · have size : q.log2 = 52 := log2_eq low (Nat.lt_of_le_of_ne high full)
    have second : shiftToTargetExponent .binary64 q (11 : Nat) .exact = (cutOff q 1, ((11 : Nat) : Int)) :=
      shiftToTargetExponent_eq 11 0 size
    have mantissa : (cutOff q 1).mantissa = q := Nat.div_one q
    have some : (cutOff q 1).mantissa ≠ 0 := by omega
    rw [show ((0 + 11 : Nat) : Int) = (11 : Nat) from rfl, second]
    dsimp only
    refine ⟨q, 11, by omega, ?_, size, .inl ⟨rfl, rfl⟩⟩
    rw [dif_neg some]
    exact finite_congr mantissa _ _

end Outsized

/-- The bits of a significand with its exponent: the leading bit of the significand, which is
    left out, counts as one more of the exponent. -/
theorem toNat_pack {m e : Nat} (positive : 0 < m) (size : m.log2 = 52) (small : e < 971) :
    (UnpackedFloat.pack .binary64 (.finite .positive m e positive)).toNat = (e + 1074) * 4503599627370496 + m := by
  have bias : ((e : Int) + (Format.exponentBias .binary64 : Nat) + (52 : Nat)).toNat = e + 1075 := by
    have : Format.exponentBias .binary64 = 1023 := by decide
    omega
  have bounds : 4503599627370496 ≤ m ∧ m < 9007199254740992 := (Nat.log2_eq_iff (by omega)).mp size
  unfold UnpackedFloat.pack
  dsimp only
  rw [bias, size, if_neg, if_pos]
  · unfold packComponents
    rw [BitVec.toNat_append, BitVec.toNat_append, ← Nat.shiftLeft_add_eq_or_of_lt (BitVec.isLt _),
      ← Nat.shiftLeft_add_eq_or_of_lt (BitVec.isLt _)]
    simp [BitVec.toNat_ofNat, Sign.toBitVec, Nat.shiftLeft_eq]
    omega
  · rfl
  · show ¬ 2048 ≤ e + 1075 + 1
    omega

theorem toBits_toFloat {n : Nat} (least : 9223372036854775808 ≤ n) (below : n < 18446744073709551616) :
    n.toUInt64.toFloat.toBits.toNat = 4886405595696988160 + roundHalfEven n 2048 := by
  have size : n.toUInt64.toNat = n := UInt64.toNat_ofNat_of_lt below
  have bits : n.toUInt64.toFloat.toBits.toNat =
      (UnpackedFloat.pack .binary64 (UnpackedFloat.ofNat .binary64 n.toUInt64.toNat)).toNat := rfl
  obtain ⟨m, e, positive, rounded, log, place⟩ := roundWithAccuracy_eq least below
  rw [bits, size, ofNat_eq least below, rounded, toNat_pack positive log (by omega)]
  omega

theorem eq_of_toBits {f g : Float} (h : f.toBits.toNat = g.toBits.toNat) : f = g := by
  obtain ⟨⟨bits, valid⟩⟩ := f
  obtain ⟨⟨bits', valid'⟩⟩ := g
  obtain rfl : bits = bits' := UInt64.toNat_inj.mp h
  rfl

end Rounding

/-! ## (3) Values and their documents -/

/-- The multiple of 2048 that is nearest to a number; of two equally near ones the even one. -/
structure Nearest (n q : Nat) : Prop where
  above : n ≤ 2048 * q + 1024
  below : 2048 * q ≤ n + 1024
  even : n = 2048 * q + 1024 ∨ 2048 * q = n + 1024 → q % 2 = 0

theorem nearest_iff {n q : Nat} : Nearest n q ↔ q = Decimal.roundHalfEven n 2048 := by
  unfold Decimal.roundHalfEven
  dsimp only
  constructor
  · intro h
    obtain ⟨above, below, even⟩ := h
    split
    · omega
    · split
      · omega
      · split <;> omega
  · intro h
    split at h
    · exact ⟨by omega, by omega, by omega⟩
    · split at h
      · exact ⟨by omega, by omega, by omega⟩
      · split at h
        · exact ⟨by omega, by omega, by omega⟩
        · exact ⟨by omega, by omega, by omega⟩

/-- The float that a number of a document becomes, if it becomes one. -/
inductive Json.Number.Becomes : Json.Number → Float → Prop
  | float (f : Float) : Becomes (.float f) f
  | integer {n q : Nat} {f : Float} : 9223372036854775808 ≤ n → Nearest n q →
      f.toBits.toNat = 4886405595696988160 + q → Becomes (.integer n) f

def Json.Number.Readable : Json.Number → Prop
  | .integer i => -9223372036854775808 ≤ i ∧ i ≤ 18446744073709551615
  | .float _ => True

namespace Value

theorem ofNumber_eq_int_iff {n : Json.Number} {z : Int64} : ofNumber n = .int z ↔ n = .integer z.toInt := by
  constructor
  · intro h
    cases n with
    | integer i =>
      simp only [ofNumber] at h
      split at h
      · rename_i fits
        obtain rfl := Value.int.inj h
        rw [toInt_ofInt (fitsInt64_iff.mp fits)]
      · cases h
    | float f => cases h
  · intro h
    rw [h, ofNumber, if_pos (fitsInt64_iff.mpr (inRange_toInt z)), Int64.ofInt_toInt]

theorem ofNumber_outsized {n : Nat} (least : 9223372036854775808 ≤ n) :
    ofNumber (.integer n) = .float n.toUInt64.toFloat := by
  have outside : ¬ fitsInt64 n = true := by
    rw [fitsInt64_iff, InRange]
    omega
  rw [ofNumber, if_neg outside]
  rfl

theorem becomes_outsized_iff {n : Nat} (least : 9223372036854775808 ≤ n) (below : n < 18446744073709551616)
    {f : Float} : Json.Number.Becomes (.integer n) f ↔ n.toUInt64.toFloat = f := by
  have bits := Rounding.toBits_toFloat least below
  constructor
  · intro h
    generalize same : Json.Number.integer n = number at h
    cases h with
    | float => cases same
    | integer _ nearest place =>
      obtain rfl := Int.ofNat.inj (Json.Number.integer.inj same)
      refine Rounding.eq_of_toBits ?_
      rw [bits, place, nearest_iff.mp nearest]
  · intro h
    rw [← h]
    exact .integer least (nearest_iff.mpr rfl) bits

theorem ofNumber_eq_float_iff {n : Json.Number} (readable : n.Readable) {f : Float} :
    ofNumber n = .float f ↔ n.Becomes f := by
  cases n with
  | float g =>
    constructor
    · intro h
      cases h
      exact .float _
    · intro h
      cases h
      rfl
  | integer i =>
    by_cases outsized : 9223372036854775808 ≤ i
    · obtain ⟨n, rfl⟩ := Int.eq_ofNat_of_zero_le (by omega : 0 ≤ i)
      have greatest := readable.2
      rw [ofNumber_outsized (by omega), becomes_outsized_iff (by omega) (by omega), Value.float.injEq]
    · have fits : fitsInt64 i = true := by
        have least := readable.1
        rw [fitsInt64_iff, InRange]
        omega
      rw [ofNumber, if_pos fits]
      constructor
      · intro h
        cases h
      · intro h
        cases h
        omega

theorem ofNumber_cases (n : Json.Number) : (∃ z, ofNumber n = .int z) ∨ ∃ f, ofNumber n = .float f := by
  cases n with
  | integer i =>
    simp only [ofNumber]
    split
    · exact .inl ⟨_, rfl⟩
    · exact .inr ⟨_, rfl⟩
  | float f => exact .inr ⟨f, rfl⟩

theorem ofNumber_eq_iff {n n' : Json.Number} (readable : n.Readable) (readable' : n'.Readable) :
    ofNumber n = ofNumber n' ↔ n = n' ∨ ∃ f, n.Becomes f ∧ n'.Becomes f := by
  constructor
  · intro same
    rcases ofNumber_cases n with ⟨z, value⟩ | ⟨f, value⟩
    · left
      rw [ofNumber_eq_int_iff.mp value, ofNumber_eq_int_iff.mp (same.symm.trans value)]
    · right
      exact ⟨f, (ofNumber_eq_float_iff readable).mp value,
        (ofNumber_eq_float_iff readable').mp (same.symm.trans value)⟩
  · intro h
    rcases h with rfl | ⟨f, first, second⟩
    · rfl
    · rw [(ofNumber_eq_float_iff readable).mpr first, (ofNumber_eq_float_iff readable').mpr second]

def document? : Value → Option Json
  | .null => some .null
  | .bool b => some (.bool b)
  | .text s => some (.string s)
  | .json document => some document
  | _ => none

theorem document?_ofJson {document : Json} (h : ¬ ∃ n, document = .number n) :
    (ofJson document).document? = some document := by
  cases document with
  | number n => exact absurd ⟨n, rfl⟩ h
  | _ => rfl

end Value

namespace Json

def Readable (document : Json) : Prop := ∀ n, document = .number n → n.Readable

/-- Only a number has the value of a number. -/
theorem number_of_ofJson {document : Json} {n : Number} (h : Value.ofJson document = Value.ofNumber n) :
    ∃ n', document = .number n' := by
  cases document with
  | number n' => exact ⟨n', rfl⟩
  | _ =>
    rcases Value.ofNumber_cases n with ⟨z, value⟩ | ⟨f, value⟩
    · rw [value] at h
      cases h
    · rw [value] at h
      cases h

theorem ofJson_eq_iff {a b : Json} (readable : a.Readable) (readable' : b.Readable) :
    Value.ofJson a = Value.ofJson b ↔
      a = b ∨ ∃ n n' f, a = .number n ∧ b = .number n' ∧ n.Becomes f ∧ n'.Becomes f := by
  constructor
  · intro same
    by_cases number : ∃ n, a = .number n
    · obtain ⟨n, rfl⟩ := number
      obtain ⟨n', rfl⟩ := number_of_ofJson same.symm
      rcases (Value.ofNumber_eq_iff (readable n rfl) (readable' n' rfl)).mp same with rfl | ⟨f, first, second⟩
      · exact .inl rfl
      · exact .inr ⟨n, n', f, rfl, rfl, first, second⟩
    · left
      have other : ¬ ∃ n, b = .number n := by
        intro ⟨n, isNumber⟩
        rw [isNumber] at same
        exact number (number_of_ofJson same)
      have first := Value.document?_ofJson number
      rw [same, Value.document?_ofJson other] at first
      exact (Option.some.inj first).symm
  · intro h
    rcases h with rfl | ⟨n, n', f, rfl, rfl, first, second⟩
    · rfl
    · exact (Value.ofNumber_eq_iff (readable n rfl) (readable' n' rfl)).mpr (.inr ⟨f, first, second⟩)

/-- The integers from 2^63 on, and the floats from 2^63 to 2^64. -/
def Number.Blurred : Number → Prop
  | .integer i => 9223372036854775808 ≤ i
  | .float f => 4890909195324358656 ≤ f.toBits.toNat ∧ f.toBits.toNat ≤ 4895412794951729152

/-- Another number has the value of a blurred one: the float of an integer, and of a float the
    integer it is, or one below 2^64. -/
theorem exists_other_of_blurred {n : Number} (readable : n.Readable) (h : n.Blurred) :
    ∃ n', n' ≠ n ∧ n'.Readable ∧ Value.ofNumber n' = Value.ofNumber n := by
  cases n with
  | integer i =>
    obtain ⟨n, rfl⟩ := Int.eq_ofNat_of_zero_le (by unfold Number.Blurred at h; omega : 0 ≤ i)
    have least : 9223372036854775808 ≤ n := by unfold Number.Blurred at h; omega
    exact ⟨.float n.toUInt64.toFloat, nofun, trivial, (Value.ofNumber_outsized least).symm⟩
  | float f =>
    obtain ⟨low, high⟩ := h
    obtain ⟨q, place⟩ := Nat.exists_eq_add_of_le (by omega : 4886405595696988160 ≤ f.toBits.toNat)
    let m := min (2048 * q) 18446744073709551615
    have nearest : Nearest m q := ⟨by omega, by omega, by omega⟩
    have whole : Number.Readable (.integer m) := by
      constructor <;> omega
    have becomes : Number.Becomes (.integer m) f := .integer (by omega) nearest place
    exact ⟨.integer m, nofun, whole, (Value.ofNumber_eq_float_iff whole).mpr becomes⟩

/-- Nothing else becomes the float of a number that is not blurred. -/
theorem eq_of_becomes {n n' : Number} {f : Float} (readable : n.Readable) (clear : ¬ n'.Blurred) (first : n.Becomes f)
    (second : n'.Becomes f) : n = n' := by
  cases second with
  | integer least _ _ => exact absurd (Int.ofNat_le.mpr least) clear
  | float =>
    cases first with
    | float => rfl
    | integer least nearest place =>
      obtain ⟨above, below, -⟩ := nearest
      have greatest := readable.2
      refine absurd ?_ clear
      unfold Number.Blurred
      omega

theorem own_value_iff {a : Json} (readable : a.Readable) :
    (∀ b : Json, b.Readable → Value.ofJson b = Value.ofJson a → b = a) ↔ ∀ n, a = .number n → ¬ n.Blurred := by
  constructor
  · intro own n same blurred
    subst same
    obtain ⟨n', other, readable', value⟩ := exists_other_of_blurred (readable n rfl) blurred
    refine other (Json.number.inj (own (.number n') ?_ value))
    intro m same
    cases same
    exact readable'
  · intro clear b readable' same
    rcases (ofJson_eq_iff readable' readable).mp same with equal | ⟨n, n', f, rfl, rfl, first, second⟩
    · exact equal
    · rw [eq_of_becomes (readable' n rfl) (clear n' rfl) first second]

end Json

/-- A chain of members of a captured document has a value exactly if its path leads through
    objects to a part of the document, and it is the value of that part. Documents have one
    value only if they are the same or become the same float, and the value of a document
    is its own exactly if it is neither an integer from 2^63 on nor a float from there to
    2^64. -/
theorem captured_documents_read_back (document : Json) :
    (∃ e, Expr.capture (.ok document) = .ok e ∧ ∀ path v, (e.chain path).evaluate = .ok v ↔
      ∃ part, document.Leads path part ∧ v = Value.ofJson part) ∧
    (∀ a b : Json, a.Readable → b.Readable → (Value.ofJson a = Value.ofJson b ↔
      a = b ∨ ∃ n n' f, a = .number n ∧ b = .number n' ∧ n.Becomes f ∧ n'.Becomes f)) ∧
    (∀ a : Json, a.Readable → ((∀ b : Json, b.Readable → Value.ofJson b = Value.ofJson a → b = a) ↔
      ∀ n, a = .number n → ¬ n.Blurred)) :=
  ⟨⟨_, rfl, fun path v => Expr.evaluate_chain rfl path v⟩, fun _ _ => Json.ofJson_eq_iff, fun _ => Json.own_value_iff⟩

/-- An object inside an object; a member of a number; and the greatest integer that is kept. -/
theorem captured_documents_read_back_nested :
    let greatest : Json := .number (.integer 9223372036854775807)
    let document : Json := .object [("total", greatest), ("customer", .object [("name", .string "ann")])]
    ∃ e, Expr.capture (.ok document) = .ok e ∧ (e.chain ["customer", "name"]).evaluate = .ok (.text "ann") ∧
      (∀ v, (e.chain ["total", "name"]).evaluate ≠ .ok v) ∧
      ∀ b : Json, b.Readable → Value.ofJson b = Value.ofJson greatest → b = greatest := by
  intro greatest document
  obtain ⟨⟨e, captured, reads⟩, -, own⟩ := captured_documents_read_back document
  refine ⟨e, captured, (reads _ _).mpr ⟨.string "ann", ?_, rfl⟩, ?_, ?_⟩
  · exact Json.leads_cons_iff.mpr ⟨_, rfl, Json.leads_cons_iff.mpr ⟨_, rfl, .here _⟩⟩
  · intro v evaluated
    obtain ⟨part, leads, -⟩ := (reads _ _).mp evaluated
    obtain ⟨child, found, rest⟩ := Json.leads_cons_iff.mp leads
    obtain rfl := Option.some.inj found
    obtain ⟨_, none, -⟩ := Json.leads_cons_iff.mp rest
    cases none
  · refine (own greatest ?_).mpr ?_
    · intro n same
      obtain rfl := Json.number.inj same
      exact ⟨by decide, by decide⟩
    · intro n same blurred
      obtain rfl := Json.number.inj same
      unfold Json.Number.Blurred at blurred
      omega

/-- Two documents whose integers are neighbours are read back as the same value. -/
theorem outsized_integers_collide :
    let document (id : Int) : Json := .object [("id", .number (.integer id))]
    document 9223372036854775808 ≠ document 9223372036854775809 ∧
      ∃ e e' v, Expr.capture (.ok (document 9223372036854775808)) = .ok e ∧
        Expr.capture (.ok (document 9223372036854775809)) = .ok e' ∧
        (e.chain ["id"]).evaluate = .ok v ∧ (e'.chain ["id"]).evaluate = .ok v := by
  intro document
  have same : (9223372036854775809 : UInt64).toFloat = (9223372036854775808 : UInt64).toFloat := by decide +kernel
  refine ⟨by simp [document], _, _, .float (9223372036854775808 : UInt64).toFloat, rfl, rfl, rfl, ?_⟩
  rw [← same]
  rfl

end Querycraft
