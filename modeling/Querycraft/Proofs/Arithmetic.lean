/-
  Querycraft.Proofs.Arithmetic — integer arithmetic is exact or an error.

  Integers are computed in 64 bits, and an exact result need not fit. What the result of a
  tree is exactly is said here without the machine and without the library's division: a
  quotient and a remainder are any two numbers that make up the dividend, the remainder
  smaller than the divisor and on the dividend's side of zero (`Divided`). `ExactValue`
  gives the trees of integers their values, of any size; a division by zero has none.
  Proved:
  (1) an operation gives the exact result if that has 64 bits, except for the remainder of
      the least integer by minus one, and otherwise nothing (`integerResult?_eq_some_iff`);
  (2) a tree has an integer exactly if the results of all its nodes have 64 bits, and the
      integer is the exact value. The first node that has none is the error, also where a
      node above it would fit again (`evaluate_cases`);
  (3) the same of the term, which takes over the evaluated tree as it is
      (`integer_arithmetic_exact`).
-/

import Querycraft.Proofs.Meaning

namespace Querycraft

/-! ## Integers of 64 bits -/

namespace Value

def InRange (z : Int) : Prop := -9223372036854775808 ≤ z ∧ z ≤ 9223372036854775807

theorem inRange_toInt (z : Int64) : InRange z.toInt := by
  have least := z.le_toInt
  have greatest := z.toInt_lt
  unfold InRange
  omega

theorem fitsInt64_iff {z : Int} : fitsInt64 z = true ↔ InRange z := by
  have least : Int64.minValue.toInt = -9223372036854775808 := rfl
  have greatest : Int64.maxValue.toInt = 9223372036854775807 := rfl
  simp [fitsInt64, InRange, least, greatest]

theorem toInt_ofInt {z : Int} (h : InRange z) : (Int64.ofInt z).toInt = z := by
  unfold InRange at h
  exact Int64.toInt_ofInt_of_le (by omega) (by omega)

end Value

/-! ## (1) One operation -/

/-- A quotient cut off toward zero, and its remainder. -/
structure Divided (a b q r : Int) : Prop where
  total : a = b * q + r
  small : r.natAbs < b.natAbs
  above : 0 ≤ a → 0 ≤ r
  below : a ≤ 0 → r ≤ 0

inductive Operator.Exact : Operator → Int → Int → Int → Prop
  | add (a b : Int) : Exact .add a b (a + b)
  | subtract (a b : Int) : Exact .subtract a b (a - b)
  | multiply (a b : Int) : Exact .multiply a b (a * b)
  | divide {a b q r : Int} : Divided a b q r → Exact .divide a b q
  | modulo {a b q r : Int} : Divided a b q r → Exact .modulo a b r

theorem divided_iff {a b q r : Int} : Divided a b q r ↔ b ≠ 0 ∧ a.tdiv b = q ∧ a.tmod b = r := by
  constructor
  · intro h
    obtain ⟨total, small, above, below⟩ := h
    have divisor : b ≠ 0 := by omega
    refine ⟨divisor, ?_⟩
    rcases Int.le_total 0 a with side | side
    · refine (Int.tdiv_tmod_unique side divisor).mpr ⟨?_, above side, ?_⟩ <;> omega
    · refine (Int.tdiv_tmod_unique' side divisor).mpr ⟨?_, ?_, below side⟩ <;> omega
  · intro h
    obtain ⟨divisor, rfl, rfl⟩ := h
    refine ⟨(Int.mul_tdiv_add_tmod a b).symm, ?_, fun side => Int.tmod_nonneg b side, fun side => ?_⟩
    · rw [Int.natAbs_tmod]
      exact Nat.mod_lt _ (by omega)
    · have opposite := Int.tmod_nonneg b (Int.neg_nonneg_of_nonpos side)
      rw [Int.neg_tmod] at opposite
      omega

namespace Expr

open Value (InRange inRange_toInt fitsInt64_iff toInt_ofInt)

theorem exactInteger?_eq_some_iff {op : Operator} {a b c : Int} : exactInteger? op a b = some c ↔ op.Exact a b c := by
  constructor
  · intro h
    unfold exactInteger? at h
    split at h
    · obtain rfl := Option.some.inj h
      exact .add a b
    · obtain rfl := Option.some.inj h
      exact .subtract a b
    · obtain rfl := Option.some.inj h
      exact .multiply a b
    · obtain ⟨divisor, quotient⟩ := Option.ite_none_left_eq_some.mp h
      exact .divide (divided_iff.mpr ⟨divisor, Option.some.inj quotient, rfl⟩)
    · obtain ⟨divisor, remainder⟩ := Option.ite_none_left_eq_some.mp h
      exact .modulo (divided_iff.mpr ⟨divisor, rfl, Option.some.inj remainder⟩)
    · cases h
  · intro h
    cases h with
    | add | subtract | multiply => rfl
    | divide divided =>
      obtain ⟨divisor, rfl, -⟩ := divided_iff.mp divided
      exact if_neg divisor
    | modulo divided =>
      obtain ⟨divisor, -, rfl⟩ := divided_iff.mp divided
      exact if_neg divisor

theorem exact_unique {op : Operator} {a b c c' : Int} (h : op.Exact a b c) (h' : op.Exact a b c') : c = c' := by
  rw [← exactInteger?_eq_some_iff] at h h'
  exact Option.some.inj (h.symm.trans h')

/-- The remainder that is refused although it is zero: its quotient has no 64 bits. -/
def Refused (op : Operator) (a b : Int) : Prop := op = .modulo ∧ a = -9223372036854775808 ∧ b = -1

theorem refused_iff {op : Operator} {a b : Int64} :
    (op = .modulo ∧ a = Int64.minValue ∧ b = -1) ↔ Refused op a.toInt b.toInt := by
  have least : a = Int64.minValue ↔ a.toInt = -9223372036854775808 := Int64.toInt_inj.symm
  have minusOne : b = -1 ↔ b.toInt = -1 := Int64.toInt_inj.symm
  rw [Refused, least, minusOne]

/-- (1) An operation gives the exact result or nothing. -/
theorem integerResult?_eq_some_iff {op : Operator} {a b c : Int64} :
    integerResult? op a b = some c ↔ op.Exact a.toInt b.toInt c.toInt ∧ ¬ Refused op a.toInt b.toInt := by
  unfold integerResult?
  by_cases refused : Refused op a.toInt b.toInt
  · rw [if_pos (refused_iff.mpr refused)]
    simp [refused]
  · rw [if_neg (mt refused_iff.mp refused)]
    constructor
    · intro h
      split at h
      · rename_i i found
        obtain ⟨fits, same⟩ := Option.ite_none_right_eq_some.mp h
        obtain rfl := Option.some.inj same
        rw [toInt_ofInt (fitsInt64_iff.mp fits)]
        exact ⟨exactInteger?_eq_some_iff.mp found, refused⟩
      · cases h
    · intro h
      rw [exactInteger?_eq_some_iff.mpr h.1]
      dsimp only
      rw [if_pos (fitsInt64_iff.mpr (inRange_toInt c)), Int64.ofInt_toInt]

/-! ## (2) Trees -/

/-- Integers under the five operators, with conversions and quotations anywhere. -/
inductive IsInteger : Expr → Prop
  | int (z : Int64) : IsInteger (.constant (.int z))
  | enum (type variant : String) (z : Int64) : IsInteger (.enumConstant type variant z)
  | convert {e : Expr} : IsInteger e → IsInteger (.convert e)
  | quote {e : Expr} : IsInteger e → IsInteger (.quote e)
  | binary {op : Operator} {l r : Expr} : op.isArithmetic = true → IsInteger l → IsInteger r →
      IsInteger (.binary op l r)

/-- The exact value of a tree, of any size. -/
inductive ExactValue : Expr → Int → Prop
  | int (z : Int64) : ExactValue (.constant (.int z)) z.toInt
  | enum (type variant : String) (z : Int64) : ExactValue (.enumConstant type variant z) z.toInt
  | convert {e : Expr} {z : Int} : ExactValue e z → ExactValue (.convert e) z
  | quote {e : Expr} {z : Int} : ExactValue e z → ExactValue (.quote e) z
  | binary {op : Operator} {l r : Expr} {a b c : Int} : ExactValue l a → ExactValue r b → op.Exact a b c →
      ExactValue (.binary op l r) c

inductive Node : Expr → Expr → Prop
  | root (e : Expr) : Node e e
  | convert {n e : Expr} : Node n e → Node n (.convert e)
  | quote {n e : Expr} : Node n e → Node n (.quote e)
  | left {n l r : Expr} {op : Operator} : Node n l → Node n (.binary op l r)
  | right {n l r : Expr} {op : Operator} : Node n r → Node n (.binary op l r)

/-- The node has an exact value of 64 bits, and is not the remainder that is refused. -/
structure Fits (n : Expr) : Prop where
  inRange : ∃ z, n.ExactValue z ∧ InRange z
  notRefused : ∀ op l r a b, n = .binary op l r → l.ExactValue a → r.ExactValue b → ¬ Refused op a b

def FitsThroughout (e : Expr) : Prop := ∀ n, Node n e → n.Fits

theorem ExactValue.unique {e : Expr} {z z' : Int} (h : e.ExactValue z) (h' : e.ExactValue z') : z = z' := by
  induction h generalizing z' with
  | int | enum =>
    cases h'
    rfl
  | convert _ ih =>
    cases h' with
    | convert inner => exact ih inner
  | quote _ ih =>
    cases h' with
    | quote inner => exact ih inner
  | binary _ _ result ihl ihr =>
    cases h' with
    | binary l r result' =>
      obtain rfl := ihl l
      obtain rfl := ihr r
      exact exact_unique result result'

theorem fitsThroughout_int (z : Int64) : FitsThroughout (.constant (.int z)) := by
  intro n node
  cases node
  exact ⟨⟨z.toInt, .int z, inRange_toInt z⟩, nofun⟩

theorem fitsThroughout_enum (type variant : String) (z : Int64) : FitsThroughout (.enumConstant type variant z) := by
  intro n node
  cases node
  exact ⟨⟨z.toInt, .enum type variant z, inRange_toInt z⟩, nofun⟩

theorem fitsThroughout_convert {e : Expr} : FitsThroughout (.convert e) ↔ e.FitsThroughout := by
  constructor
  · intro h n node
    exact h n (.convert node)
  · intro h n node
    cases node with
    | root =>
      obtain ⟨z, value, range⟩ := (h e (.root e)).inRange
      exact ⟨⟨z, .convert value, range⟩, nofun⟩
    | convert inner => exact h n inner

theorem fitsThroughout_quote {e : Expr} : FitsThroughout (.quote e) ↔ e.FitsThroughout := by
  constructor
  · intro h n node
    exact h n (.quote node)
  · intro h n node
    cases node with
    | root =>
      obtain ⟨z, value, range⟩ := (h e (.root e)).inRange
      exact ⟨⟨z, .quote value, range⟩, nofun⟩
    | quote inner => exact h n inner

theorem fitsThroughout_binary {op : Operator} {l r : Expr} :
    FitsThroughout (.binary op l r) ↔ l.FitsThroughout ∧ r.FitsThroughout ∧ Fits (.binary op l r) := by
  constructor
  · intro h
    exact ⟨fun n node => h n (.left node), fun n node => h n (.right node), h _ (.root _)⟩
  · intro h n node
    obtain ⟨left, right, fits⟩ := h
    cases node with
    | root => exact fits
    | left inner => exact left n inner
    | right inner => exact right n inner

theorem fits_binary_iff {op : Operator} {l r : Expr} {a b : Int64} (left : l.ExactValue a.toInt)
    (right : r.ExactValue b.toInt) : Fits (.binary op l r) ↔ ∃ c, integerResult? op a b = some c := by
  constructor
  · intro h
    obtain ⟨⟨z, value, range⟩, notRefused⟩ := h
    cases value with
    | binary left' right' result =>
      obtain rfl := left.unique left'
      obtain rfl := right.unique right'
      refine ⟨Int64.ofInt z, integerResult?_eq_some_iff.mpr ⟨?_, notRefused op l r _ _ rfl left right⟩⟩
      rw [toInt_ofInt range]
      exact result
  · intro h
    obtain ⟨c, computed⟩ := h
    obtain ⟨result, notRefused⟩ := integerResult?_eq_some_iff.mp computed
    refine ⟨⟨c.toInt, .binary left right result, inRange_toInt c⟩, ?_⟩
    intro op' l' r' a' b' same left' right'
    cases same
    rw [← left.unique left', ← right.unique right']
    exact notRefused

theorem evaluate_binary {op : Operator} (h : op.isArithmetic = true) {l r : Expr} {a b : Int64}
    (left : l.evaluate = .ok (.int a)) (right : r.evaluate = .ok (.int b)) :
    (Expr.binary op l r).evaluate =
      match integerResult? op a b with
      | some c => .ok (.int c)
      | none => .error (.integerRange a op b) := by
  rw [evaluate, left, right]
  cases op with
  | add | subtract | multiply | divide | modulo => rfl
  | _ => cases h

/-- (2) A tree of integers that fits has its exact value, and any other is an error. -/
theorem evaluate_cases {e : Expr} (h : e.IsInteger) :
    (e.FitsThroughout ∧ ∃ z : Int64, e.evaluate = .ok (.int z) ∧ e.ExactValue z.toInt) ∨
      (¬ e.FitsThroughout ∧ ∃ a op b, e.evaluate = .error (.integerRange a op b)) := by
  -- expressions have lists of expressions in them, so the induction is on what makes this one a tree of integers
  induction h with
  | int z => exact .inl ⟨fitsThroughout_int z, z, rfl, .int z⟩
  | enum type variant z => exact .inl ⟨fitsThroughout_enum type variant z, z, rfl, .enum type variant z⟩
  | convert _ ih =>
    rcases ih with ⟨fits, z, evaluated, value⟩ | ⟨unfit, failed⟩
    · exact .inl ⟨fitsThroughout_convert.mpr fits, z, evaluated, .convert value⟩
    · exact .inr ⟨mt fitsThroughout_convert.mp unfit, failed⟩
  | quote _ ih =>
    rcases ih with ⟨fits, z, evaluated, value⟩ | ⟨unfit, failed⟩
    · exact .inl ⟨fitsThroughout_quote.mpr fits, z, evaluated, .quote value⟩
    · exact .inr ⟨mt fitsThroughout_quote.mp unfit, failed⟩
  | @binary op l r arithmetic _ _ ihl ihr =>
    rw [fitsThroughout_binary]
    rcases ihl with ⟨fitsLeft, a, evaluatedLeft, left⟩ | ⟨unfit, x, op', y, failed⟩
    · rcases ihr with ⟨fitsRight, b, evaluatedRight, right⟩ | ⟨unfit, x, op', y, failed⟩
      · rw [evaluate_binary arithmetic evaluatedLeft evaluatedRight, fits_binary_iff left right]
        cases computed : integerResult? op a b with
        | some c =>
          have result := (integerResult?_eq_some_iff.mp computed).1
          exact .inl ⟨⟨fitsLeft, fitsRight, c, rfl⟩, c, rfl, .binary left right result⟩
        | none => exact .inr ⟨by simp, a, op, b, rfl⟩
      · refine .inr ⟨fun h => unfit h.2.1, x, op', y, ?_⟩
        rw [evaluate, evaluatedLeft, failed]
        rfl
    · -- the right operand is not evaluated, whether it fits or not
      refine .inr ⟨fun h => unfit h.1, x, op', y, ?_⟩
      rw [evaluate, failed]
      rfl

theorem evaluate_eq_ok_iff {e : Expr} (h : e.IsInteger) (z : Int64) :
    e.evaluate = .ok (.int z) ↔ e.FitsThroughout ∧ e.ExactValue z.toInt := by
  rcases evaluate_cases h with ⟨fits, w, evaluated, value⟩ | ⟨unfit, a, op, b, failed⟩
  · rw [evaluated]
    constructor
    · intro same
      cases same
      exact ⟨fits, value⟩
    · intro other
      rw [Int64.toInt_inj.mp (value.unique other.2)]
  · rw [failed]
    constructor
    · nofun
    · intro other
      exact absurd other.1 unfit

/-! ## (3) Terms -/

theorem mentionsRow_of_isInteger {e : Expr} (h : e.IsInteger) : e.mentionsRow = false := by
  induction h with
  | int | enum => rfl
  | convert _ ih | quote _ ih => exact ih
  | binary _ _ _ ihl ihr => rw [mentionsRow, ihl, ihr, Bool.or_false]

theorem ofExpr_of_isInteger {e : Expr} (h : e.IsInteger) : Term.ofExpr e = e.evaluate.map Term.value := by
  induction h with
  | int | enum => rfl
  | convert _ ih | quote _ ih => exact ih
  | binary arithmetic left right =>
    rw [Term.ofExpr_binary, if_pos arithmetic, mentionsRow_of_isInteger (.binary arithmetic left right)]
    rfl

/-- (3) A tree of integers under the five operators has an integer for its value and its term
    exactly if at each node the exact result has 64 bits and is not refused, and then this
    is the exact value of the tree. In all other cases both fail with an argument error. -/
theorem integer_arithmetic_exact {e : Expr} (h : e.IsInteger) :
    (∀ z : Int64, e.evaluate = .ok (.int z) ↔ e.FitsThroughout ∧ e.ExactValue z.toInt) ∧
    (∀ z : Int64, Term.ofExpr e = .ok (.value (.int z)) ↔ e.FitsThroughout ∧ e.ExactValue z.toInt) ∧
    (e.FitsThroughout → ∃ z : Int64, e.ExactValue z.toInt ∧ ∀ other, e.ExactValue other → other = z.toInt) ∧
    (¬ e.FitsThroughout → ∃ error, e.evaluate = .error error ∧ Term.ofExpr e = .error error ∧
      error.kind = .argument) := by
  have term (z : Int64) : Term.ofExpr e = .ok (.value (.int z)) ↔ e.evaluate = .ok (.int z) := by
    rw [ofExpr_of_isInteger h]
    cases e.evaluate <;> simp [Except.map]
  refine ⟨evaluate_eq_ok_iff h, fun z => (term z).trans (evaluate_eq_ok_iff h z), ?_, ?_⟩
  · intro fits
    rcases evaluate_cases h with ⟨-, z, -, value⟩ | ⟨unfit, -⟩
    · exact ⟨z, value, fun other alike => alike.unique value⟩
    · exact absurd fits unfit
  · intro unfit
    rcases evaluate_cases h with ⟨fits, -⟩ | ⟨-, a, op, b, failed⟩
    · exact absurd fits unfit
    · refine ⟨.integerRange a op b, failed, ?_, rfl⟩
      rw [ofExpr_of_isInteger h, failed]
      rfl

/-- `-7 / 2 * 2 + -7 % 2` is the dividend again. `(max + 1) - 1` and `min % -1` are errors,
    though their exact values have 64 bits. -/
theorem integer_arithmetic_exact_truncated :
    let int (z : Int64) : Expr := .constant (.int z)
    let parts : Expr := .binary .add
      (.binary .multiply (.convert (.binary .divide (int (-7)) (.enumConstant "Step" "Two" 2))) (int 2))
      (.quote (.binary .modulo (int (-7)) (int 2)))
    let beyond : Expr := .binary .subtract (.binary .add (int Int64.maxValue) (int 1)) (int 1)
    let rest : Expr := .binary .modulo (int Int64.minValue) (int (-1))
    (parts.IsInteger ∧ parts.FitsThroughout ∧ parts.ExactValue (-7)) ∧
      (beyond.IsInteger ∧ ¬ beyond.FitsThroughout ∧ beyond.ExactValue 9223372036854775807) ∧
      rest.IsInteger ∧ ¬ rest.FitsThroughout ∧ rest.ExactValue 0 := by
  intro int parts beyond rest
  have whole : parts.IsInteger :=
    .binary rfl (.binary rfl (.convert (.binary rfl (.int _) (.enum _ _ _))) (.int _))
      (.quote (.binary rfl (.int _) (.int _)))
  have large : beyond.IsInteger := .binary rfl (.binary rfl (.int _) (.int _)) (.int _)
  have least : rest.IsInteger := .binary rfl (.int _) (.int _)
  refine ⟨⟨whole, ((integer_arithmetic_exact whole).1 (-7)).mp rfl⟩, ⟨large, ?_, ?_⟩, least, ?_, ?_⟩
  · intro fits
    obtain ⟨z, value, -⟩ := (integer_arithmetic_exact large).2.2.1 fits
    cases ((integer_arithmetic_exact large).1 z).mpr ⟨fits, value⟩
  · exact .binary (.binary (.int _) (.int _) (.add _ _)) (.int _) (.subtract _ _)
  · intro fits
    obtain ⟨z, value, -⟩ := (integer_arithmetic_exact least).2.2.1 fits
    cases ((integer_arithmetic_exact least).1 z).mpr ⟨fits, value⟩
  · have divided : Divided (-9223372036854775808) (-1) 9223372036854775808 0 :=
      ⟨by decide, by decide, fun _ => Int.le_refl 0, fun _ => Int.le_refl 0⟩
    exact .binary (.int Int64.minValue) (.int (-1)) (.modulo divided)

end Expr

end Querycraft
