/-
  Querycraft.Proofs.Acceptance — exactly which predicates are refused, and why.

  A predicate can fail twice: when it is lowered, and when its normal term is emitted.
  Emission has two errors of its own. One is about arithmetic in a condition, and never
  shows: lowering evaluates arithmetic or refuses it, so no term it gives has an
  arithmetic operator (`arithmetic_of_ofExpr`), and normalizing keeps the operators of a
  term as they are (`operators_normalize`). The other is about a column compared by order
  with `NULL`. It shows for every such comparison that the normal term has, because
  emission goes through all parts of a term until it fails (`judged_emit`).

  Which comparisons these are can be seen in the normal term only: `NOT NOT a < NULL`
  has none before the negations cancel, and is refused; `NOT a < NULL` compares a
  negation with `NULL` and is accepted.
-/

import Querycraft.Proofs.Drafting
import Querycraft.Proofs.Meaning
import Querycraft.Proofs.NormalForm

namespace Querycraft

namespace Operator

def isOrder : Operator → Bool
  | .greater | .greaterOrEqual | .less | .lessOrEqual => true
  | _ => false

theorem isOrder_eq (op : Operator) : op.isOrder = (op.isComparison && !op.isEquality) := by
  cases op <;> rfl

end Operator

namespace Term

def operators : Term → List Operator
  | .not operand => operand.operators
  | .operation op left right => op :: (left.operators ++ right.operators)
  | _ => []

/-- A column compared with `NULL`, by order and by this operator when the column is put on
    the left. -/
inductive OrdersNull : Operator → Term → Prop
  | right {op : Operator} (c : Column) : op.isOrder = true →
      OrdersNull op (.operation op (.column c) (.value .null))
  | left {op : Operator} (c : Column) : op.isOrder = true →
      OrdersNull op.converse (.operation op (.value .null) (.column c))

/-! ## Operators of normal terms -/

theorem operators_negate (t : Term) : t.negate.operators = t.operators := by
  unfold negate
  split <;> rfl

theorem operators_equality (op : Operator) (l r : Term) :
    (equality op l r).operators = op :: (l.operators ++ r.operators) := by
  unfold equality
  split <;> simp [operators_negate, operators]

/-- Normalizing moves negations only. -/
theorem operators_normalize (t : Term) : t.normalize.operators = t.operators := by
  induction t with
  | column c => rfl
  | value v => rfl
  | like m c text => rfl
  | not u ih => rw [normalize, operators_negate, ih, operators]
  | operation op l r ihl ihr =>
    rw [normalize]
    split
    · rw [operators_equality, ihl, ihr, operators]
    · rw [operators, ihl, ihr, operators]

/-! ## Operators of lowered terms -/

theorem operators_of_evaluated {result : Except Error Value} {t : Term} (h : result.map Term.value = .ok t) :
    t.operators = [] := by
  cases result with
  | error e => cases h
  | ok v =>
    obtain rfl := Except.ok.inj h
    rfl

/-- Arithmetic does not survive lowering. -/
theorem arithmetic_of_ofExpr : ∀ {e : Expr} {t : Term}, ofExpr e = .ok t →
    ∀ op ∈ t.operators, op.isArithmetic = false
  | .constant _, _, h => by
    obtain rfl := Except.ok.inj h
    simp [operators]
  | .enumConstant .., _, h => by
    obtain rfl := Except.ok.inj h
    simp [operators]
  | .row _, _, h => by cases h
  | .member target name owner, t, h => by
    rw [ofExpr_member] at h
    split at h
    · obtain rfl := Except.ok.inj h
      simp [operators]
    · simp [operators_of_evaluated h]
  | .not e, t, h => by
    rw [ofExpr_not] at h
    cases lowered : ofExpr e with
    | error e =>
      rw [lowered] at h
      cases h
    | ok u =>
      rw [lowered] at h
      obtain rfl := Except.ok.inj h
      intro op member
      exact arithmetic_of_ofExpr lowered op member
  | .convert e, _, h => arithmetic_of_ofExpr (e := e) h
  | .quote e, _, h => arithmetic_of_ofExpr (e := e) h
  | .binary op l r, t, h => by
    cases arithmetic : op.isArithmetic with
    | true =>
      rw [ofExpr_binary, if_pos arithmetic] at h
      split at h
      · cases h
      · simp [operators_of_evaluated h]
    | false =>
      obtain ⟨l', r', left, right, rfl⟩ := Expr.ofExpr_operation arithmetic h
      have first := arithmetic_of_ofExpr left
      have second := arithmetic_of_ofExpr right
      intro op' member
      simp only [operators, List.mem_cons, List.mem_append] at member
      rcases member with rfl | member | member
      · exact arithmetic
      · exact first op' member
      · exact second op' member
  | .invoke receiver method arguments host, t, h => by
    cases onRow : receiver.rowEntity?.isSome with
    | true =>
      obtain ⟨m, c, text, rfl⟩ := Expr.ofExpr_method onRow h
      simp [operators]
    | false =>
      rw [ofExpr_invoke, onRow] at h
      simp [operators_of_evaluated h]
  | .call .., _, h => by simp [operators_of_evaluated h]
  | .record _, _, h => by cases h

/-! ## What emission refuses -/

/-- Whether a part of the term orders `NULL`, as a failure that says which. -/
inductive Judged (t : Term) : Option Error → Prop
  | accepted : (∀ u ∈ t.parts, ∀ op, ¬ OrdersNull op u) → Judged t none
  | refused {u : Term} {op : Operator} : u ∈ t.parts → OrdersNull op u → Judged t (some (.nullOrdered op))

theorem judged_of_leaf {t : Term} (leaf : t.parts = [t]) : Judged t none := by
  refine .accepted ?_
  intro u member op orders
  rw [leaf, List.mem_singleton] at member
  subst member
  cases orders <;> simp [parts] at leaf

theorem Judged.not {t : Term} {failure : Option Error} (h : Judged t failure) : Judged (.not t) failure := by
  cases h with
  | accepted none =>
    refine .accepted ?_
    intro u member op orders
    rcases List.mem_cons.mp member with rfl | inside
    · cases orders
    · exact none u inside op orders
  | refused member orders => exact .refused (List.mem_cons_of_mem _ member) orders

/-- An operation that does not order `NULL` itself fails as its left side does, or else as
    its right side. -/
theorem Judged.operation {op : Operator} {l r : Term} {first second : Option Error} (hl : Judged l first)
    (hr : Judged r second) (itself : ∀ op', ¬ OrdersNull op' (.operation op l r)) :
    Judged (.operation op l r) (first.or second) := by
  cases hl with
  | refused member orders =>
    exact .refused (List.mem_cons_of_mem _ (List.mem_append_left _ member)) orders
  | accepted left =>
    cases hr with
    | refused member orders =>
      exact .refused (List.mem_cons_of_mem _ (List.mem_append_right _ member)) orders
    | accepted right =>
      refine .accepted ?_
      intro u member op' orders
      rcases List.mem_cons.mp member with rfl | inside
      · exact itself op' orders
      · rcases List.mem_append.mp inside with inside | inside
        · exact left u inside op' orders
        · exact right u inside op' orders

/-- Such a comparison is one fragment, with the column on the left. -/
theorem ordersNull_iff {op op' : Operator} {l r : Term} :
    OrdersNull op' (.operation op l r) ↔ op.isOrder = true ∧ ∃ c, pair? op l r = some (.withValue c op' .null) := by
  constructor
  · intro h
    cases h with
    | right c order => exact ⟨order, c, rfl⟩
    | left c order => exact ⟨order, c, rfl⟩
  · rintro ⟨order, c, found⟩
    rcases pair?_cases found with ⟨_, _, rfl, rfl, same⟩ | ⟨_, _, rfl, rfl, same⟩ | ⟨_, _, _, _, same⟩
    · cases same
      exact .right c order
    · cases same
      exact .left c order
    · cases same

theorem leaves_of_pair {op : Operator} {l r : Term} {pair : Pair} (found : pair? op l r = some pair) :
    l.parts = [l] ∧ r.parts = [r] := by
  rcases pair?_cases found with ⟨_, _, rfl, rfl, -⟩ | ⟨_, _, rfl, rfl, -⟩ | ⟨_, _, rfl, rfl, -⟩ <;> exact ⟨rfl, rfl⟩

theorem isEquality_of_pair {op op' : Operator} {l r : Term} {c : Column} {v : Value}
    (found : pair? op l r = some (.withValue c op' v)) : op'.isEquality = op.isEquality := by
  rcases pair?_cases found with ⟨_, _, _, _, same⟩ | ⟨_, _, _, _, same⟩ | ⟨_, _, _, _, same⟩
  · cases same
    rfl
  · cases same
    cases op <;> rfl
  · cases same

theorem failure_nullPair (c : Column) (op : Operator) :
    (emitPair (.withValue c op .null)).failure = if op.isEquality then none else some (.nullOrdered op) := by
  cases op <;> rfl

/-- A comparison that is one fragment. -/
theorem judged_pair {op : Operator} {l r : Term} {pair : Pair} (comparison : op.isComparison = true)
    (found : pair? op l r = some pair) : Judged (.operation op l r) (emitPair pair).failure := by
  obtain ⟨left, right⟩ := leaves_of_pair found
  have accepted : (∀ op', ¬ OrdersNull op' (.operation op l r)) → Judged (.operation op l r) none :=
    (judged_of_leaf left).operation (judged_of_leaf right)
  cases pair with
  | columns a op' b =>
    refine accepted ?_
    intro named orders
    obtain ⟨-, c, other⟩ := ordersNull_iff.mp orders
    cases found.symm.trans other
  | withValue c op' v =>
    cases v with
    | null =>
      rw [failure_nullPair, isEquality_of_pair found]
      cases equality : op.isEquality with
      | true =>
        refine accepted ?_
        intro named orders
        obtain ⟨order, -⟩ := ordersNull_iff.mp orders
        simp [Operator.isOrder_eq, equality] at order
      | false =>
        have order : op.isOrder = true := by simp [Operator.isOrder_eq, comparison, equality]
        exact .refused List.mem_cons_self (ordersNull_iff.mpr ⟨order, c, found⟩)
    | _ =>
      refine accepted ?_
      intro named orders
      obtain ⟨-, c', other⟩ := ordersNull_iff.mp orders
      cases found.symm.trans other

/-- Emission refuses a term without arithmetic exactly where it orders `NULL`. -/
theorem judged_emit {t : Term} (h : ∀ op ∈ t.operators, op.isArithmetic = false) : Judged t t.emit.failure := by
  induction t with
  | column c => exact judged_of_leaf rfl
  | value v => exact judged_of_leaf rfl
  | like m c text =>
    have emitted : (Term.like m c text).emit.failure = none := by
      cases m <;> rfl
    rw [emitted]
    exact judged_of_leaf rfl
  | not u ih =>
    rw [failure_emit_not]
    exact (ih h).not
  | operation op l r ihl ihr =>
    have left := ihl fun op' member => h op' (by simp [operators, member])
    have right := ihr fun op' member => h op' (by simp [operators, member])
    have arithmetic : op.isArithmetic = false := h op (by simp [operators])
    cases comparison : op.isComparison with
    | true =>
      rw [emit_comparison comparison]
      cases found : pair? op l r with
      | some pair => exact judged_pair comparison found
      | none =>
        simp only [Emission.failure_between_eq]
        refine left.operation right ?_
        intro op' orders
        obtain ⟨-, c, other⟩ := ordersNull_iff.mp orders
        cases found.symm.trans other
    | false =>
      have itself : ∀ op', ¬ OrdersNull op' (.operation op l r) := by
        intro op' orders
        obtain ⟨order, -⟩ := ordersNull_iff.mp orders
        rw [Operator.isOrder_eq, comparison] at order
        cases order
      cases op with
      | and =>
        rw [emit, Emission.failure_between_eq]
        exact left.operation right itself
      | or =>
        rw [emit, Emission.failure_between_eq]
        exact left.operation right itself
      | add | subtract | multiply | divide | modulo => cases arithmetic
      | _ => cases comparison

end Term

/-! ## Predicates -/

namespace Draft

/-- An expression without a term is refused as it stands. -/
theorem result_of_error {e : Expr} {error : Error} (h : Term.ofExpr e = .error error) (d : Draft) :
    ((predicate e).run d).1 = .error error := by
  unfold predicate Term.resolve
  rw [h]
  rfl

theorem result_of_term {e : Expr} {t : Term} (h : Term.ofExpr e = .ok t) (d : Draft) :
    ((predicate e).run d).1 = t.normalize.emit.failure.elim (.ok ()) .error := by
  unfold predicate Term.resolve
  rw [h]
  show ((emit t.normalize.emit).run d).1 = _
  unfold emit
  rw [Drafting.run_bind]
  cases t.normalize.emit.failure with
  | none => rfl
  | some error => rfl

/-- A predicate is accepted exactly when it has a term whose normal form orders no column
    against `NULL`. A predicate that has a term is never refused for an operator that
    conditions do not have; what is refused has no term, and the error says why, or its
    normal form orders a column against `NULL`, and the error names the comparison. -/
theorem predicate_refused_exactly (e : Expr) (d : Draft) :
    (((predicate e).run d).1 = .ok () ↔
      ∃ t, Term.ofExpr e = .ok t ∧ ∀ u ∈ t.normalize.parts, ∀ op, ¬ Term.OrdersNull op u) ∧
    (∀ t, Term.ofExpr e = .ok t → ∀ op, ((predicate e).run d).1 ≠ .error (.operatorInPredicate op)) ∧
    (∀ error, ((predicate e).run d).1 = .error error → Term.ofExpr e = .error error ∨
      ∃ t, Term.ofExpr e = .ok t ∧ ∃ u ∈ t.normalize.parts, ∃ op, Term.OrdersNull op u ∧ error = .nullOrdered op) := by
  cases lowered : Term.ofExpr e with
  | error cause =>
    rw [result_of_error lowered]
    refine ⟨⟨?_, ?_⟩, ?_, ?_⟩
    · intro accepted
      cases accepted
    · rintro ⟨t, found, -⟩
      cases found
    · intro t found
      cases found
    · intro error same
      exact .inl (congrArg Except.error (Except.error.inj same))
  | ok t =>
    have judged : Term.Judged t.normalize t.normalize.emit.failure := by
      refine Term.judged_emit ?_
      rw [Term.operators_normalize]
      exact Term.arithmetic_of_ofExpr lowered
    rw [result_of_term lowered]
    generalize t.normalize.emit.failure = failure at judged
    cases judged with
    | accepted nowhere =>
      refine ⟨⟨fun _ => ⟨t, rfl, nowhere⟩, fun _ => rfl⟩, ?_, ?_⟩
      · intro _ _ op refused
        cases refused
      · intro error refused
        cases refused
    | @refused u named member orders =>
      refine ⟨⟨?_, ?_⟩, ?_, ?_⟩
      · intro accepted
        cases accepted
      · rintro ⟨t', same, nowhere⟩
        obtain rfl := Except.ok.inj same
        exact absurd orders (nowhere u member named)
      · intro _ _ op refused
        cases refused
      · intro error refused
        obtain rfl := Except.error.inj refused
        exact .inr ⟨t, rfl, u, member, named, orders, rfl⟩

/-- `NULL > NOT NOT age` has no column beside `NULL` before it is normal, and is refused; the
    error has the column on the left. `NULL > NOT age` is accepted. -/
theorem predicate_refused_exactly_behind_negations :
    let users : Entity := ⟨"User", "users", []⟩
    let age : Term := .column ⟨"users", "age"⟩
    let once : Expr := .binary .greater (.constant .null) (.not (.field users "age"))
    let twice : Expr := .binary .greater (.constant .null) (.not (.not (.field users "age")))
    let d := onTable .sqlite "users"
    Term.ofExpr twice = .ok (.operation .greater (.value .null) (.not (.not age))) ∧
      (∀ u ∈ (Term.operation .greater (.value .null) (.not (.not age))).parts, ∀ op, ¬ Term.OrdersNull op u) ∧
      ((predicate twice).run d).1 = .error (.nullOrdered .less) ∧
      (∃ u ∈ (Term.operation .greater (.value .null) age).parts, Term.OrdersNull .less u) ∧
      ((predicate once).run d).1 = .ok () := by
  intro users age once twice d
  have refused : ((predicate twice).run d).1 = .error (.nullOrdered .less) := rfl
  refine ⟨rfl, ?_, refused, ?_, ?_⟩
  · intro u member op orders
    simp only [age, Term.parts, List.cons_append, List.nil_append, List.mem_cons, List.not_mem_nil, or_false] at member
    rcases member with rfl | rfl | rfl | rfl | rfl <;> cases orders
  · rcases (predicate_refused_exactly twice d).2.2 _ refused with none | ⟨t, found, u, member, op, orders, same⟩
    · cases none
    · obtain rfl := Except.ok.inj found
      obtain rfl := Error.nullOrdered.inj same
      exact ⟨u, member, orders⟩
  · refine (predicate_refused_exactly once d).1.mpr ⟨_, rfl, ?_⟩
    intro u member op orders
    simp only [Term.normalize, Term.negate, Operator.isEquality, Bool.false_eq_true, if_false, Term.parts,
      List.cons_append, List.nil_append, List.mem_cons, List.not_mem_nil, or_false] at member
    rcases member with rfl | rfl | rfl | rfl <;> cases orders

end Draft

end Querycraft
