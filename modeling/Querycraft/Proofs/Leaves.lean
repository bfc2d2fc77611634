/-
  Querycraft.Proofs.Leaves — the parameters of a predicate in the order of its source.

  `valuesBelow` reads the values of a term as it was lowered, from left to right: values,
  and the patterns of matches. A truth value is the opposite one if the negations directly
  above it are odd in number; a negation above an operator turns no value around.
  `leaves` reads those of a normal term as they stand there, and says of each whether it is
  the `NULL` that a column is compared with by `=` or `<>`.

  Normalizing cancels negations, turns truth values around and takes negations out of
  equalities, and yet moves no leaf past another:
  (1) a normal term has the leaves of the lowered term, in their order (`values_leaves`);
  (2) so a predicate binds the values of its source in their order, all but the `NULL`s
      of tests (`parameters_follow_source`).
-/

import Querycraft.Proofs.NormalForm
import Querycraft.Proofs.Numbering

namespace Querycraft

namespace Term

/-! ## Leaves -/

/-- The values of a term that stands directly below so many negations. -/
def valuesBelow (nots : Nat) : Term → List Value
  | .column _ => []
  | .value (.bool b) => [.bool (if nots % 2 = 1 then !b else b)]
  | .value v => [v]
  | .like m _ text => [.text (m.pattern text)]
  | .not operand => operand.valuesBelow (nots + 1)
  | .operation _ left right => left.valuesBelow 0 ++ right.valuesBelow 0

def sourceValues (t : Term) : List Value := t.valuesBelow 0

structure Leaf where
  value : Value
  /-- Whether it is the `NULL` that a column is tested for. -/
  tested : Bool

def leaves : Term → List Leaf
  | .column _ => []
  | .value v => [⟨v, false⟩]
  | .like m _ text => [⟨.text (m.pattern text), false⟩]
  | .not operand => operand.leaves
  | .operation op left right =>
    if isNullTest op left right then [⟨.null, true⟩] else left.leaves ++ right.leaves

/-- A condition binds the leaves that are not tested for. -/
theorem operands_eq_leaves (t : Term) : t.operands = (t.leaves.filter (!·.tested)).map Leaf.value := by
  induction t with
  | column c => rfl
  | value v => rfl
  | like m c text => rfl
  | not t ih => exact ih
  | operation op l r ihl ihr =>
    unfold operands leaves
    by_cases test : isNullTest op l r = true
    · rw [if_pos test, if_pos test]
      rfl
    · rw [if_neg test, if_neg test, ihl, ihr, List.filter_append, List.map_append]

/-! ## (1) Leaves of normal terms -/

/-- Two negations more turn nothing around. -/
theorem valuesBelow_add_two (nots : Nat) (t : Term) : t.valuesBelow (nots + 2) = t.valuesBelow nots := by
  induction t generalizing nots with
  | value v =>
    cases v with
    | bool b => simp [valuesBelow]
    | _ => rfl
  | not t ih => exact ih (nots + 1)
  | _ => rfl

theorem valuesBelow_negate (nots : Nat) (t : Term) : t.negate.valuesBelow nots = t.valuesBelow (nots + 1) := by
  cases t with
  | not u => exact (valuesBelow_add_two nots u).symm
  | value v =>
    cases v with
    | bool b =>
      by_cases odd : nots % 2 = 1
      · have even : ¬ (nots + 1) % 2 = 1 := by omega
        simp [negate, valuesBelow, odd, even]
      · have odd' : (nots + 1) % 2 = 1 := by omega
        simp [negate, valuesBelow, odd, odd']
    | _ => rfl
  | _ => rfl

/-- What may stand below a negation in a normal term has no truth value to turn around. -/
theorem valuesBelow_of_sound {t : Term} (h : ¬ (Term.not t).Misplaced) (m n : Nat) :
    t.valuesBelow m = t.valuesBelow n := by
  cases t with
  | not u => exact absurd (.negation u) h
  | value v =>
    cases v with
    | bool b => exact absurd (.constant b) h
    | _ => rfl
  | _ => rfl

/-- A normal negation has the values of what it negates. -/
theorem IsNormal.values_not {t : Term} (h : (Term.not t).IsNormal) :
    (Term.not t).sourceValues = t.sourceValues :=
  valuesBelow_of_sound (isNormal_not.mp h).1 1 0

/-- Negations leave an equality without a trace in its values. -/
theorem valuesBelow_equality (op : Operator) {l r : Term} (hl : l.IsNormal) (hr : r.IsNormal) (nots : Nat) :
    (equality op l r).valuesBelow nots = l.sourceValues ++ r.sourceValues := by
  rw [equality_eq]
  cases left : l.negated? with
  | none =>
    cases right : r.negated? with
    | none => rfl
    | some r' =>
      obtain rfl := negated?_eq_some right
      rw [hr.values_not]
      rfl
  | some l' =>
    obtain rfl := negated?_eq_some left
    rw [hl.values_not]
    cases right : r.negated? with
    | none => rfl
    | some r' =>
      obtain rfl := negated?_eq_some right
      rw [hr.values_not]
      rfl

theorem valuesBelow_normalize (nots : Nat) (t : Term) : t.normalize.valuesBelow nots = t.valuesBelow nots := by
  induction t generalizing nots with
  | column c => rfl
  | value v => rfl
  | like m c text => rfl
  | not t ih =>
    rw [normalize, valuesBelow_negate, ih]
    rfl
  | operation op l r ihl ihr =>
    rw [normalize]
    split
    · rw [valuesBelow_equality op (isNormal_normalize l) (isNormal_normalize r), sourceValues, sourceValues, ihl, ihr]
      rfl
    · rw [valuesBelow, ihl, ihr]
      rfl

/-- The one value of a test is the `NULL`. -/
theorem values_of_nullTest {op : Operator} {l r : Term} (h : isNullTest op l r = true) :
    l.sourceValues ++ r.sourceValues = [.null] := by
  unfold isNullTest at h
  split at h
  · rfl
  · rfl
  · simp at h

/-- In a normal term the values stand as they are bound. -/
theorem IsNormal.values_leaves {t : Term} (h : t.IsNormal) : t.leaves.map Leaf.value = t.sourceValues := by
  induction t with
  | column c => rfl
  | value v => cases v <;> rfl
  | like m c text => rfl
  | not t ih =>
    rw [h.values_not, ← ih (isNormal_not.mp h).2]
    rfl
  | operation op l r ihl ihr =>
    obtain ⟨-, left, right⟩ := isNormal_operation.mp h
    show (Term.operation op l r).leaves.map Leaf.value = l.sourceValues ++ r.sourceValues
    unfold leaves
    by_cases test : isNullTest op l r = true
    · rw [if_pos test, values_of_nullTest test]
      rfl
    · rw [if_neg test, List.map_append, ihl left, ihr right]

/-- The leaves of a normal form are the values of the term, in the same order. -/
theorem values_leaves (t : Term) : t.normalize.leaves.map Leaf.value = t.sourceValues :=
  (isNormal_normalize t).values_leaves.trans (valuesBelow_normalize 0 t)

end Term

/-! ## (2) Parameters -/

namespace Draft

open Drafting

/-- A predicate accepted on an empty draft leaves it with the values of its term as
    parameters. -/
theorem values_of_predicate {dialect : Dialect} {table stem : String} {index : Nat} {e : Expr} {d' : Draft}
    (h : Gives (predicate e) (((onTable dialect table).withStem stem).numberedFrom index) () d') :
    d'.parameters.values = e.carried := by
  have start : (((onTable dialect table).withStem stem).numberedFrom index).Numbered index [] := ⟨rfl, rfl⟩
  have numbered := start.binds (writes_predicate h).adds.toBinds
  rw [numbered.values, List.nil_append]

/-- The parameters of a predicate accepted on an empty draft are the values of the lowered
    term from left to right, truth values turned around by the negations directly above
    them, without the `NULL`s that the normal term compares with a column by `=` or `<>`. -/
theorem parameters_follow_source {dialect : Dialect} {table stem : String} {index : Nat} {e : Expr} {d' : Draft}
    (accepted : (predicate e).run (((onTable dialect table).withStem stem).numberedFrom index) = (.ok (), d')) :
    ∃ t, Term.ofExpr e = .ok t ∧ t.normalize.leaves.map Term.Leaf.value = t.sourceValues ∧
      d'.parameters.values = (t.normalize.leaves.filter (!·.tested)).map Term.Leaf.value := by
  obtain ⟨term, resolved, -, -⟩ := gives_predicate.mp accepted
  obtain ⟨t, lowered, rfl⟩ := Term.resolve_eq_ok resolved
  refine ⟨t, lowered, t.values_leaves, ?_⟩
  rw [values_of_predicate accepted, Expr.carried, resolved]
  exact t.normalize.operands_eq_leaves

/-- `(NOT NOT NOT true) = active AND ((NOT role) <> NULL OR NULL = NOT (name LIKE 'a%'))`: the
    truth value is bound as its opposite, and of the two `NULL`s the one that is no test. -/
theorem parameters_follow_source_mixed :
    let users : Entity := ⟨"User", "users", []⟩
    let flipped : Expr := .binary .equal (.not (.not (.not (.constant (.bool true))))) (.field users "active")
    let tested : Expr := .binary .notEqual (.not (.field users "role")) (.constant .null)
    let compared : Expr :=
      .binary .equal (.constant .null) (.not (.like (.field users "name") .startsWith (.constant (.text "a"))))
    ∃ d', (predicate (.binary .and flipped (.binary .or tested compared))).run
        (((onTable .postgres "users").withStem "P").numberedFrom 4) = (.ok (), d') ∧
      d'.parameters.values = [.bool false, .null, .text "a%"] := by
  intro users flipped tested compared
  have succeeds : ((predicate (.binary .and flipped (.binary .or tested compared))).run
      (((onTable .postgres "users").withStem "P").numberedFrom 4)).1.isOk = true := by decide +kernel
  obtain ⟨⟨⟩, d', ran⟩ := gives_of_isOk succeeds
  obtain ⟨t, lowered, -, bound⟩ := parameters_follow_source ran
  have source : Term.ofExpr (.binary .and flipped (.binary .or tested compared)) = .ok
      (.operation .and (.operation .equal (.not (.not (.not (.value (.bool true))))) (.column ⟨"users", "active"⟩))
        (.operation .or (.operation .notEqual (.not (.column ⟨"users", "role"⟩)) (.value .null))
          (.operation .equal (.value .null) (.not (.like .startsWith ⟨"users", "name"⟩ "a"))))) := rfl
  obtain rfl := Except.ok.inj (lowered.symm.trans source)
  exact ⟨d', ran, bound⟩

end Draft

end Querycraft
