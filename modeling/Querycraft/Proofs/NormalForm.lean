/-
  Querycraft.Proofs.NormalForm — which terms are normal, and that normalizing reaches them.

  A term is normal if nowhere in it a negation negates a negation or a truth value, and
  nowhere is a side of an equality a negation. `parts` lists every term that a term is
  made of, so `IsNormal` says what does not occur; the rules for each shape of term
  (`isNormal_not`, `isNormal_operation`) take it apart from the outside in.

  Normalizing takes negations off and puts them in front of equalities, and looks at
  nothing a second time. That is enough because what a normal negation negates is never
  a negation itself (`IsNormal.operand`), so a term that loses one may become the side
  of an equality. Proved:
  (1) the negation of a normal term and the equality of two are normal
      (`IsNormal.negate`, `IsNormal.equality`);
  (2) normalizing gives normal terms and changes exactly the others, so doing it twice is
      doing it once (`normalize_reaches_normal_form`).
-/

import Querycraft.Term.NormalForm

namespace Querycraft.Term

/-! ## Parts -/

def parts : Term → List Term
  | .not operand => .not operand :: operand.parts
  | .operation op left right => .operation op left right :: (left.parts ++ right.parts)
  | leaf => [leaf]

/-- A negation where normal terms have none. -/
inductive Misplaced : Term → Prop
  | negation (t : Term) : Misplaced (.not (.not t))
  | constant (b : Bool) : Misplaced (.not (.value (.bool b)))
  | left {op : Operator} (l r : Term) : op.isEquality = true → Misplaced (.operation op (.not l) r)
  | right {op : Operator} (l r : Term) : op.isEquality = true → Misplaced (.operation op l (.not r))

/-- No negation is out of place anywhere in the term. -/
def IsNormal (t : Term) : Prop := ∀ u ∈ t.parts, ¬ u.Misplaced

theorem isNormal_not {t : Term} : (Term.not t).IsNormal ↔ ¬ (Term.not t).Misplaced ∧ t.IsNormal :=
  List.forall_mem_cons

theorem isNormal_operation {op : Operator} {l r : Term} :
    (Term.operation op l r).IsNormal ↔ ¬ (Term.operation op l r).Misplaced ∧ l.IsNormal ∧ r.IsNormal := by
  unfold IsNormal
  rw [parts, List.forall_mem_cons, List.forall_mem_append]

/-- A term of one part has no place for a negation. -/
theorem isNormal_of_leaf {t : Term} (leaf : t.parts = [t]) : t.IsNormal := by
  intro u member misplaced
  rw [leaf, List.mem_singleton] at member
  subst member
  cases misplaced <;> simp [parts] at leaf

/-- What a normal negation negates is normal, and no negation. -/
theorem IsNormal.operand {t : Term} (h : (Term.not t).IsNormal) : t.IsNormal ∧ t.negated? = none := by
  obtain ⟨sound, normal⟩ := isNormal_not.mp h
  refine ⟨normal, ?_⟩
  cases t with
  | not u => exact absurd (.negation u) sound
  | _ => rfl

theorem negated?_eq_some {t u : Term} (h : t.negated? = some u) : t = .not u := by
  cases t with
  | not v => exact congrArg Term.not (Option.some.inj h)
  | _ => cases h

/-! ## (1) Negations and equalities of normal terms -/

theorem negate_of_not_misplaced {t : Term} (h : ¬ (Term.not t).Misplaced) : t.negate = .not t := by
  cases t with
  | not u => exact absurd (.negation u) h
  | value v =>
    cases v with
    | bool b => exact absurd (.constant b) h
    | _ => rfl
  | _ => rfl

theorem equality_eq (op : Operator) (l r : Term) :
    equality op l r =
      match l.negated?, r.negated? with
      | some l, some r => .operation op l r
      | some l, none => Term.negate (.operation op l r)
      | none, some r => Term.negate (.operation op l r)
      | none, none => .operation op l r := by
  cases l <;> cases r <;> rfl

theorem IsNormal.negate {t : Term} (h : t.IsNormal) : t.negate.IsNormal := by
  by_cases misplaced : (Term.not t).Misplaced
  · cases misplaced with
    | negation u => exact h.operand.1
    | constant b => exact isNormal_of_leaf rfl
  · rw [negate_of_not_misplaced misplaced]
    exact isNormal_not.mpr ⟨misplaced, h⟩

/-- An operation on normal terms that are no negations. -/
theorem IsNormal.operation (op : Operator) {l r : Term} (hl : l.IsNormal) (hr : r.IsNormal)
    (left : l.negated? = none) (right : r.negated? = none) : (Term.operation op l r).IsNormal := by
  refine isNormal_operation.mpr ⟨?_, hl, hr⟩
  intro misplaced
  cases misplaced with
  | left => cases left
  | right => cases right

theorem IsNormal.equality (op : Operator) {l r : Term} (hl : l.IsNormal) (hr : r.IsNormal) :
    (equality op l r).IsNormal := by
  rw [equality_eq]
  cases left : l.negated? with
  | none =>
    cases right : r.negated? with
    | none => exact hl.operation op hr left right
    | some r' =>
      obtain rfl := negated?_eq_some right
      obtain ⟨inner, bare⟩ := hr.operand
      exact (hl.operation op inner left bare).negate
  | some l' =>
    obtain rfl := negated?_eq_some left
    obtain ⟨inner, bare⟩ := hl.operand
    cases right : r.negated? with
    | none => exact (inner.operation op hr bare right).negate
    | some r' =>
      obtain rfl := negated?_eq_some right
      obtain ⟨inner', bare'⟩ := hr.operand
      exact inner.operation op inner' bare bare'

/-! ## (2) Normalizing -/

theorem isNormal_normalize (t : Term) : t.normalize.IsNormal := by
  induction t with
  | column c => exact isNormal_of_leaf rfl
  | value v => exact isNormal_of_leaf rfl
  | like m c text => exact isNormal_of_leaf rfl
  | not u ih => exact ih.negate
  | operation op l r ihl ihr =>
    unfold normalize
    split
    · exact ihl.equality op ihr
    · rename_i other
      refine isNormal_operation.mpr ⟨?_, ihl, ihr⟩
      intro misplaced
      generalize l.normalize = l', r.normalize = r' at misplaced
      cases misplaced with
      | left _ _ equality => exact other equality
      | right _ _ equality => exact other equality

theorem IsNormal.normalize_eq {t : Term} (h : t.IsNormal) : t.normalize = t := by
  induction t with
  | column c => rfl
  | value v => rfl
  | like m c text => rfl
  | not u ih =>
    obtain ⟨sound, inner⟩ := isNormal_not.mp h
    rw [normalize, ih inner, negate_of_not_misplaced sound]
  | operation op l r ihl ihr =>
    obtain ⟨sound, left, right⟩ := isNormal_operation.mp h
    rw [normalize, ihl left, ihr right]
    split
    · rename_i equality
      rw [equality_eq]
      cases found : l.negated? with
      | some l' =>
        obtain rfl := negated?_eq_some found
        exact absurd (.left l' r equality) sound
      | none =>
        cases found' : r.negated? with
        | some r' =>
          obtain rfl := negated?_eq_some found'
          exact absurd (.right l r' equality) sound
        | none => rfl
    · rfl

/-- (2) Normalizing gives a normal term, leaves exactly the normal terms as they are, and
    does nothing the second time. -/
theorem normalize_reaches_normal_form (t : Term) :
    t.normalize.IsNormal ∧ (t.normalize = t ↔ t.IsNormal) ∧ t.normalize.normalize = t.normalize := by
  refine ⟨isNormal_normalize t, ⟨?_, IsNormal.normalize_eq⟩, (isNormal_normalize t).normalize_eq⟩
  intro fixed
  rw [← fixed]
  exact isNormal_normalize t

-- three negations come to one, and it leaves its side of the equality
example :
    let active : Term := .column ⟨"users", "active"⟩
    (Term.operation .equal (.not (.not (.not active))) (.not (.value (.bool true)))).normalize =
      .not (.operation .equal active (.value (.bool false))) := rfl

end Querycraft.Term
