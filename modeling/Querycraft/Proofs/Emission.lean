/-
  Querycraft.Proofs.Emission — the conditions that terms become, shape by shape.

  `Emits t fragments` lists every way in which a term has a condition: one rule for each
  shape of term, with the groups, the tests for `NULL` and the exchanged sides in the
  rules. A term whose emission does not fail has the fragments that the rules give it
  (`emits_of_emit`), so a law about conditions is an induction over the rules.

  `Term.operands` are the values of a term from left to right, without the `NULL` of a
  test; they are what the condition binds, in that order (`Emits.operands_eq`).
-/

import Querycraft.Term.Emission

namespace Querycraft

/-! ## Emissions one after another -/

namespace Emission

/-- Of two emissions the first failure counts. -/
theorem failure_append_eq (a b : Emission) : (a ++ b).failure = a.failure.or b.failure := by
  show (followedBy a b).failure = _
  cases h : a.failure with
  | none => simp [followedBy, h]
  | some e => simp [followedBy, h]

theorem failure_append {a b : Emission} :
    (a ++ b).failure = none ↔ a.failure = none ∧ b.failure = none := by
  rw [failure_append_eq, Option.or_eq_none_iff]

theorem fragments_append {a b : Emission} (h : a.failure = none) :
    (a ++ b).fragments = a.fragments ++ b.fragments := by
  show (followedBy a b).fragments = _
  simp [followedBy, h]

theorem failure_grouped_eq (a : Emission) : (grouped a).failure = a.failure := by
  simp [grouped, failure_append_eq, one]

theorem failure_grouped {a : Emission} : (grouped a).failure = none ↔ a.failure = none := by
  rw [failure_grouped_eq]

theorem fragments_grouped {a : Emission} (h : a.failure = none) :
    (grouped a).fragments = Fragment.opening :: a.fragments ++ [Fragment.closing] := by
  rw [grouped, fragments_append (failure_append.mpr ⟨rfl, h⟩), fragments_append rfl]
  rfl

/-- Two emissions with a fragment between them, in a group. -/
theorem failure_between_eq (a b : Emission) (fragment : Fragment Value) :
    (grouped (a ++ one fragment ++ b)).failure = a.failure.or b.failure := by
  simp [failure_grouped_eq, failure_append_eq, one]

theorem failure_between {a b : Emission} {fragment : Fragment Value} :
    (grouped (a ++ one fragment ++ b)).failure = none ↔ a.failure = none ∧ b.failure = none := by
  rw [failure_between_eq, Option.or_eq_none_iff]

theorem fragments_between {a b : Emission} {fragment : Fragment Value} (ha : a.failure = none)
    (hb : b.failure = none) :
    (grouped (a ++ one fragment ++ b)).fragments =
      Fragment.opening :: (a.fragments ++ fragment :: b.fragments) ++ [Fragment.closing] := by
  have first : (a ++ one fragment).failure = none := failure_append.mpr ⟨ha, rfl⟩
  rw [fragments_grouped (failure_append.mpr ⟨first, hb⟩), fragments_append first, fragments_append ha]
  simp [one]

end Emission

/-- Not text that was written on the side. -/
def Fragment.isPlain : Fragment α → Bool
  | .inQuery .. => false
  | .verbatim _ => false
  | _ => true

namespace Term

/-! ## The rules -/

inductive Emits : Term → List (Fragment Value) → Prop
  | column (c : Column) : Emits (.column c) [.column c]
  | value (v : Value) : Emits (.value v) [.operand v]
  | equals (c : Column) (text : String) : Emits (.like .equals c text) [.compare c .equal (.text text)]
  | pattern {m : TextMatch} (c : Column) (text : String) : m ≠ .equals →
      Emits (.like m c text) [.like c (.text (m.pattern text))]
  | notGrouped {t : Term} {inside : List (Fragment Value)} : t.isGrouped = true → Emits t inside →
      Emits (.not t) (.negation :: inside)
  | notBare {t : Term} {inside : List (Fragment Value)} : t.isGrouped = false → Emits t inside →
      Emits (.not t) (.negation :: .opening :: inside ++ [.closing])
  | and {l r : Term} {left right : List (Fragment Value)} : Emits l left → Emits r right →
      Emits (.operation .and l r) (.opening :: (left ++ .conjunction :: right) ++ [.closing])
  | or {l r : Term} {left right : List (Fragment Value)} : Emits l left → Emits r right →
      Emits (.operation .or l r) (.opening :: (left ++ .disjunction :: right) ++ [.closing])
  | columns {op : Operator} (a b : Column) : op.isComparison = true →
      Emits (.operation op (.column a) (.column b)) [.compareColumns a op b]
  | compared {op op' : Operator} {l r : Term} {c : Column} {v : Value} : op.isComparison = true →
      pair? op l r = some (.withValue c op' v) → v.isNull = false →
      Emits (.operation op l r) [.compare c op' v]
  | isNull {l r : Term} {c : Column} : pair? .equal l r = some (.withValue c .equal .null) →
      Emits (.operation .equal l r) [.nullTest c false]
  | isNotNull {l r : Term} {c : Column} : pair? .notEqual l r = some (.withValue c .notEqual .null) →
      Emits (.operation .notEqual l r) [.nullTest c true]
  | generic {op : Operator} {l r : Term} {left right : List (Fragment Value)} : op.isComparison = true →
      pair? op l r = none → Emits l left → Emits r right →
      Emits (.operation op l r) (.opening :: (left ++ .operator op :: right) ++ [.closing])

theorem emit_comparison {op : Operator} (h : op.isComparison = true) (l r : Term) :
    (Term.operation op l r).emit =
      match pair? op l r with
      | some pair => emitPair pair
      | none => .grouped (l.emit ++ .one (.operator op) ++ r.emit) := by
  cases op <;> first | rfl | cases h

/-- A negation fails as what it negates. -/
theorem failure_emit_not (t : Term) : (Term.not t).emit.failure = t.emit.failure := by
  rw [emit]
  split
  · simp [Emission.failure_append_eq, Emission.one]
  · simp [Emission.failure_append_eq, Emission.failure_grouped_eq, Emission.one]

/-- The comparisons that are one fragment. -/
theorem pair?_cases {op : Operator} {l r : Term} {pair : Pair} (h : pair? op l r = some pair) :
    (∃ c v, l = .column c ∧ r = .value v ∧ pair = .withValue c op v) ∨
    (∃ v c, l = .value v ∧ r = .column c ∧ pair = .withValue c op.converse v) ∨
    (∃ a b, l = .column a ∧ r = .column b ∧ pair = .columns a op b) := by
  unfold pair? at h
  split at h
  · exact .inl ⟨_, _, rfl, rfl, (Option.some.inj h).symm⟩
  · exact .inr (.inl ⟨_, _, rfl, rfl, (Option.some.inj h).symm⟩)
  · exact .inr (.inr ⟨_, _, rfl, rfl, (Option.some.inj h).symm⟩)
  · cases h

/-- Exchanging the sides of a comparison gives a comparison. -/
theorem isComparison_of_pair {op op' : Operator} {l r : Term} {c : Column} {v : Value}
    (found : pair? op l r = some (.withValue c op' v)) (comparison : op.isComparison = true) :
    op'.isComparison = true := by
  rcases pair?_cases found with ⟨_, _, _, _, same⟩ | ⟨_, _, _, _, same⟩ | ⟨_, _, _, _, same⟩
  · cases same
    exact comparison
  · cases same
    cases op <;> first | rfl | cases comparison
  · cases same

theorem emitPair_value {c : Column} {op : Operator} {v : Value} (h : v.isNull = false) :
    emitPair (.withValue c op v) = .one (.compare c op v) := by
  cases v with
  | null => cases h
  | _ => rfl

theorem emits_withValue {op op' : Operator} {l r : Term} {c : Column} {v : Value}
    (comparison : op.isComparison = true) (found : pair? op l r = some (.withValue c op' v))
    (same : op' = op ∨ op' = op.converse) (h : (emitPair (.withValue c op' v)).failure = none) :
    Emits (.operation op l r) (emitPair (.withValue c op' v)).fragments := by
  cases null : v.isNull with
  | false =>
    rw [emitPair_value null]
    exact .compared comparison found null
  | true =>
    cases v with
    | null =>
      -- of the comparisons with `NULL` only the two tests do not fail
      rcases same with rfl | rfl
      · cases op' with
        | equal => exact .isNull found
        | notEqual => exact .isNotNull found
        | _ => cases h
      · cases op with
        | equal => exact .isNull found
        | notEqual => exact .isNotNull found
        | _ => cases h
    | _ => cases null

theorem emits_pair {op : Operator} {l r : Term} {pair : Pair} (comparison : op.isComparison = true)
    (found : pair? op l r = some pair) (h : (emitPair pair).failure = none) :
    Emits (.operation op l r) (emitPair pair).fragments := by
  rcases pair?_cases found with ⟨c, v, -, -, rfl⟩ | ⟨v, c, -, -, rfl⟩ | ⟨a, b, rfl, rfl, rfl⟩
  · exact emits_withValue comparison found (.inl rfl) h
  · exact emits_withValue comparison found (.inr rfl) h
  · exact .columns a b comparison

/-- A term whose emission does not fail has the fragments of the rules. -/
theorem emits_of_emit (t : Term) (h : t.emit.failure = none) : Emits t t.emit.fragments := by
  induction t with
  | column c => exact .column c
  | value v => exact .value v
  | like m c text =>
    cases m with
    | equals => exact .equals c text
    | _ => exact .pattern c text (by decide)
  | not t ih =>
    cases grouped : t.isGrouped with
    | true =>
      simp only [emit, grouped, if_true] at h ⊢
      rw [Emission.fragments_append rfl]
      exact .notGrouped grouped (ih (Emission.failure_append.mp h).2)
    | false =>
      simp only [emit, grouped, Bool.false_eq_true, if_false] at h ⊢
      have inside := Emission.failure_grouped.mp (Emission.failure_append.mp h).2
      rw [Emission.fragments_append rfl, Emission.fragments_grouped inside]
      exact .notBare grouped (ih inside)
  | operation op l r ihl ihr =>
    cases comparison : op.isComparison with
    | true =>
      rw [emit_comparison comparison] at h ⊢
      cases found : pair? op l r with
      | some pair =>
        simp only [found] at h ⊢
        exact emits_pair comparison found h
      | none =>
        simp only [found] at h ⊢
        obtain ⟨hl, hr⟩ := Emission.failure_between.mp h
        rw [Emission.fragments_between hl hr]
        exact .generic comparison found (ihl hl) (ihr hr)
    | false =>
      cases op with
      | and =>
        obtain ⟨hl, hr⟩ := Emission.failure_between.mp h
        simp only [emit]
        rw [Emission.fragments_between hl hr]
        exact .and (ihl hl) (ihr hr)
      | or =>
        obtain ⟨hl, hr⟩ := Emission.failure_between.mp h
        simp only [emit]
        rw [Emission.fragments_between hl hr]
        exact .or (ihl hl) (ihr hr)
      | add | subtract | multiply | divide | modulo => cases h
      | _ => cases comparison

theorem Emits.ne_nil {t : Term} {fragments : List (Fragment Value)} (h : Emits t fragments) :
    fragments ≠ [] := by
  cases h <;> exact List.cons_ne_nil _ _

/-! ## What a condition binds -/

def isNullTest (op : Operator) (left right : Term) : Bool :=
  op.isEquality &&
    match left, right with
    | .column _, .value .null => true
    | .value .null, .column _ => true
    | _, _ => false

/-- The values of a term from left to right, except the `NULL` that a column is tested
    for. A match has its pattern. -/
def operands : Term → List Value
  | .column _ => []
  | .value v => [v]
  | .like m _ text => [.text (m.pattern text)]
  | .not operand => operand.operands
  | .operation op left right =>
    if isNullTest op left right then [] else left.operands ++ right.operands

theorem isNullTest_of_pair {op op' : Operator} {l r : Term} {c : Column} {v : Value}
    (found : pair? op l r = some (.withValue c op' v)) : isNullTest op l r = (op.isEquality && v.isNull) := by
  rcases pair?_cases found with ⟨_, w, rfl, rfl, same⟩ | ⟨w, _, rfl, rfl, same⟩ | ⟨_, _, _, _, same⟩
  · cases same
    cases v <;> rfl
  · cases same
    cases v <;> rfl
  · cases same

theorem operands_of_pair {op op' : Operator} {l r : Term} {c : Column} {v : Value}
    (found : pair? op l r = some (.withValue c op' v)) : l.operands ++ r.operands = [v] := by
  rcases pair?_cases found with ⟨_, w, rfl, rfl, same⟩ | ⟨w, _, rfl, rfl, same⟩ | ⟨_, _, _, _, same⟩
  · cases same
    rfl
  · cases same
    rfl
  · cases same

theorem isNullTest_of_no_pair {op : Operator} {l r : Term} (none : pair? op l r = none) :
    isNullTest op l r = false := by
  unfold isNullTest
  split
  · cases none
  · cases none
  · exact Bool.and_false _

/-- A condition binds the values of its term, in their order. -/
theorem Emits.operands_eq {t : Term} {fragments : List (Fragment Value)} (h : Emits t fragments) :
    fragments.flatMap Fragment.operands = t.operands := by
  induction h with
  | column c => rfl
  | value v => rfl
  | equals c text => rfl
  | pattern c text _ => rfl
  | notGrouped _ _ ih => simpa [Fragment.operands, Term.operands] using ih
  | notBare _ _ ih => simpa [Fragment.operands, Term.operands] using ih
  | and _ _ ihl ihr => simp [Fragment.operands, Term.operands, isNullTest, Operator.isEquality, ihl, ihr]
  | or _ _ ihl ihr => simp [Fragment.operands, Term.operands, isNullTest, Operator.isEquality, ihl, ihr]
  | columns a b _ => simp [Fragment.operands, Term.operands]
  | compared _ found null =>
    simp [Fragment.operands, Term.operands, isNullTest_of_pair found, null, operands_of_pair found]
  | isNull found =>
    simp [Fragment.operands, Term.operands, isNullTest_of_pair found, Operator.isEquality, Value.isNull]
  | isNotNull found =>
    simp [Fragment.operands, Term.operands, isNullTest_of_pair found, Operator.isEquality, Value.isNull]
  | generic _ none _ _ ihl ihr =>
    simp [Fragment.operands, Term.operands, isNullTest_of_no_pair none, ihl, ihr]

theorem isPlain_grouped {inside : List (Fragment Value)} (h : ∀ fragment ∈ inside, fragment.isPlain = true) :
    ∀ fragment ∈ Fragment.opening :: inside ++ [Fragment.closing], fragment.isPlain = true :=
  List.forall_mem_append.mpr ⟨List.forall_mem_cons.mpr ⟨rfl, h⟩, List.forall_mem_singleton.mpr rfl⟩

theorem isPlain_between {left right : List (Fragment Value)} {link : Fragment Value} (plain : link.isPlain = true)
    (hl : ∀ fragment ∈ left, fragment.isPlain = true) (hr : ∀ fragment ∈ right, fragment.isPlain = true) :
    ∀ fragment ∈ left ++ link :: right, fragment.isPlain = true :=
  List.forall_mem_append.mpr ⟨hl, List.forall_mem_cons.mpr ⟨plain, hr⟩⟩

/-- A condition has no text that was written on the side. -/
theorem Emits.isPlain {t : Term} {fragments : List (Fragment Value)} (h : Emits t fragments) :
    ∀ fragment ∈ fragments, fragment.isPlain = true := by
  induction h with
  | notGrouped _ _ ih => exact List.forall_mem_cons.mpr ⟨rfl, ih⟩
  | notBare _ _ ih => exact List.forall_mem_cons.mpr ⟨rfl, isPlain_grouped ih⟩
  | and _ _ ihl ihr => exact isPlain_grouped (isPlain_between rfl ihl ihr)
  | or _ _ ihl ihr => exact isPlain_grouped (isPlain_between rfl ihl ihr)
  | generic _ _ _ _ ihl ihr => exact isPlain_grouped (isPlain_between rfl ihl ihr)
  | _ => exact List.forall_mem_singleton.mpr rfl

end Term

end Querycraft
