/-
  Querycraft.Proofs.Folding — the value of an expression and the value of its term.

  An expression without rows comes to a value in two ways. It is evaluated; or it is
  lowered, and the term folded from the leaves up. Lowering has by then evaluated what
  terms cannot say (members of captured documents, arithmetic, calls) and has left the
  negations, connectives and comparisons around it standing, so each of the two ways does
  part of the work of the other. Proved:
  (1) an expression that mentions a row has no value, however deep in members, receivers
      and arguments the row stands (`value_of_mentionsRow`);
  (2) any other expression has the value that its term folds to, and none if it has no
      term or the term does not fold (`value_of_term`).

  `Term.fold?` has rules of its own and asks nothing of the evaluator.
-/

import Querycraft.Proofs.Drafting
import Querycraft.Proofs.Meaning

namespace Querycraft

/-! ## Folding a term -/

namespace Term

def opposite? : Value → Option Value
  | .bool b => some (.bool !b)
  | _ => none

/-- Connectives are for truth values, equality is for any two values. Values have no order,
    and a term has no arithmetic. -/
def combine? : Operator → Value → Value → Option Value
  | .and, .bool a, .bool b => some (.bool (a && b))
  | .or, .bool a, .bool b => some (.bool (a || b))
  | .equal, a, b => some (.bool (a.same b))
  | .notEqual, a, b => some (.bool (!a.same b))
  | _, _, _ => none

/-- The value of a term, from the leaves up. A column has none. -/
def fold? : Term → Option Value
  | .column _ => none
  | .value v => some v
  | .like .. => none
  | .not operand => operand.fold?.bind opposite?
  | .operation op left right => left.fold?.bind fun l => right.fold?.bind fun r => combine? op l r

end Term

/-! ## Results without their errors -/

section Results

variable {ε α β : Type} (result : Except ε α)

theorem toOption_bind (next : α → Except ε β) :
    (result >>= next).toOption = result.toOption.bind fun a => (next a).toOption := by
  cases result <;> rfl

theorem toOption_map (f : α → β) : (result.map f).toOption = result.toOption.map f := by
  cases result <;> rfl

theorem toOption_eq_some {a : α} : result.toOption = some a ↔ result = .ok a := by
  constructor
  · exact Drafting.eq_ok_of_toOption
  · intro h
    rw [h]
    rfl

theorem toOption_eq_none : result.toOption = none ↔ ∃ error, result = .error error := by
  cases result with
  | error error => exact ⟨fun _ => ⟨error, rfl⟩, fun _ => rfl⟩
  | ok a =>
    constructor
    · intro none
      cases none
    · intro failed
      obtain ⟨error, same⟩ := failed
      cases same

end Results

/-! ## (1) Rows have no value -/

namespace Expr

mutual

theorem value_of_mentionsRow : ∀ {e : Expr}, e.mentionsRow = true → e.evaluate.toOption = none
  | .constant _, h => by cases h
  | .enumConstant .., h => by cases h
  | .row _, _ => rfl
  | .member target name owner, h => by
    have none := value_of_mentionsRow (e := target) h
    rw [evaluate, toOption_bind, none, Option.bind_none]
  | .not operand, h => by
    have none := value_of_mentionsRow (e := operand) h
    rw [evaluate, toOption_bind, none, Option.bind_none]
  | .convert operand, h => value_of_mentionsRow (e := operand) h
  | .quote operand, h => value_of_mentionsRow (e := operand) h
  | .binary op left right, h => by
    rw [evaluate, toOption_bind]
    by_cases first : left.mentionsRow = true
    · rw [value_of_mentionsRow first, Option.bind_none]
    · have second : right.mentionsRow = true := by simpa [mentionsRow, first] using h
      simp [toOption_bind, value_of_mentionsRow second]
  | .invoke receiver method arguments none, _ => rfl
  | .invoke receiver method arguments (some host), h => by
    rw [evaluate, toOption_bind]
    by_cases first : receiver.mentionsRow = true
    · rw [value_of_mentionsRow first, Option.bind_none]
    · have others : anyMentionsRow arguments = true := by simpa [mentionsRow, first] using h
      simp [toOption_bind, values_of_anyMentionsRow others]
  | .call method arguments none, _ => rfl
  | .call method arguments (some host), h => by
    have none : (evaluateAll arguments).toOption = none := values_of_anyMentionsRow h
    rw [evaluate, toOption_bind, none, Option.bind_none]
  | .record _, _ => rfl

theorem values_of_anyMentionsRow : ∀ {es : List Expr}, anyMentionsRow es = true → (evaluateAll es).toOption = none
  | [], h => by cases h
  | e :: rest, h => by
    rw [evaluateAll, toOption_bind]
    by_cases first : e.mentionsRow = true
    · rw [value_of_mentionsRow first, Option.bind_none]
    · have others : anyMentionsRow rest = true := by simpa [anyMentionsRow, first] using h
      simp only [toOption_bind, values_of_anyMentionsRow others, Option.bind_none, Option.bind_fun_none]

end

/-- A chain of members that starts from a row mentions it. -/
theorem rowEntity?_of_rowless : ∀ {e : Expr}, e.mentionsRow = false → e.rowEntity? = none
  | .row _, h => by cases h
  | .member target _ _, h => rowEntity?_of_rowless (e := target) h
  | .convert operand, h => rowEntity?_of_rowless (e := operand) h
  | .quote operand, h => rowEntity?_of_rowless (e := operand) h
  | .constant _, _ => rfl
  | .enumConstant .., _ => rfl
  | .not _, _ => rfl
  | .binary .., _ => rfl
  | .invoke .., _ => rfl
  | .call .., _ => rfl
  | .record _, _ => rfl

/-! ## (2) The term of an expression without rows -/

theorem toOption_applyNot (v : Value) : (applyNot v).toOption = Term.opposite? v := by
  cases v <;> rfl

theorem toOption_applyOperator {op : Operator} (h : op.isArithmetic = false) (l r : Value) :
    (applyOperator op l r).toOption = Term.combine? op l r := by
  cases op with
  | and => cases l <;> cases r <;> rfl
  | or => cases l <;> cases r <;> rfl
  | add | subtract | multiply | divide | modulo => cases h
  | _ => rfl

/-- What lowering evaluates folds to its value. -/
theorem fold?_of_evaluated (result : Except Error Value) :
    (result.map Term.value).toOption.bind Term.fold? = result.toOption := by
  cases result <;> rfl

theorem value_of_term : ∀ {e : Expr}, e.mentionsRow = false →
    e.evaluate.toOption = (Term.ofExpr e).toOption.bind Term.fold?
  | .constant _, _ => rfl
  | .enumConstant .., _ => rfl
  | .row _, h => by cases h
  | .member target name owner, h => by
    rw [Term.ofExpr_member, rowEntity?_of_rowless (e := target) h, fold?_of_evaluated]
  | .not operand, h => by
    rw [evaluate, toOption_bind, value_of_term (e := operand) h, Term.ofExpr_not, toOption_map]
    cases (Term.ofExpr operand).toOption with
    | none => rfl
    | some t => simp only [Option.bind_some, Option.map_some, Term.fold?, toOption_applyNot]
  | .convert operand, h => value_of_term (e := operand) h
  | .quote operand, h => value_of_term (e := operand) h
  | .binary op left right, h => by
    cases arithmetic : op.isArithmetic with
    | true => rw [Term.ofExpr_binary, if_pos arithmetic, h, if_neg (by simp), fold?_of_evaluated]
    | false =>
      obtain ⟨first, second⟩ : left.mentionsRow = false ∧ right.mentionsRow = false := by
        simpa [mentionsRow] using h
      rw [evaluate, Term.ofExpr_binary, arithmetic, if_neg (by simp)]
      simp only [toOption_bind, value_of_term first, value_of_term second, toOption_applyOperator arithmetic]
      -- a side without a term or without a value leaves the other one aside
      cases (Term.ofExpr left).toOption with
      | none => rfl
      | some l =>
        cases (Term.ofExpr right).toOption with
        | none => exact Option.bind_fun_none l.fold?
        | some r => rfl
  | .invoke receiver method arguments host, h => by
    have first : receiver.mentionsRow = false := by
      simp only [mentionsRow, Bool.or_eq_false_iff] at h
      exact h.1
    rw [Term.ofExpr_invoke, rowEntity?_of_rowless first, Option.isSome_none, if_neg (by simp), fold?_of_evaluated]
  | .call method arguments host, _ => (fold?_of_evaluated _).symm
  | .record _, _ => rfl

/-- An expression that mentions a row has no value; any other has a value exactly when it has
    a term and the term folds to that value. -/
theorem evaluation_agrees_with_lowering (e : Expr) :
    (e.mentionsRow = true → ∃ error, e.evaluate = .error error) ∧
    (e.mentionsRow = false → ∀ v, e.evaluate = .ok v ↔ ∃ t, Term.ofExpr e = .ok t ∧ t.fold? = some v) := by
  constructor
  · intro row
    exact (toOption_eq_none _).mp (value_of_mentionsRow row)
  · intro rowless v
    rw [← toOption_eq_some, value_of_term rowless, Option.bind_eq_some_iff]
    simp only [toOption_eq_some]

/-- `NOT (order.total + 1 = 3 AND CONVERT(first("a") <> "b"))`, with a captured order whose
    total is 2: the sum, the member and the call are values of the term, the rest is folded.
    With a column as the argument of the call there is no value. -/
theorem evaluation_agrees_with_lowering_captured :
    let order : Expr := .constant (.json (.object [("total", .number (.integer 2))]))
    let sum : Expr := .binary .add (.member order "total" none) (.enumConstant "Step" "One" 1)
    let first (argument : Expr) : Expr := .call "first" [argument] (some fun values => .ok (values.headD .null))
    let e : Expr := .not (.binary .and (.binary .equal sum (.constant (.int 3)))
      (.convert (.binary .notEqual (first (.constant (.text "a"))) (.constant (.text "b")))))
    let overRow : Expr := .not (first (.field ⟨"User", "users", []⟩ "active"))
    e.mentionsRow = false ∧ e.evaluate = .ok (.bool false) ∧
      (∃ t, Term.ofExpr e = .ok t ∧ t.fold? = some (.bool false)) ∧
      overRow.mentionsRow = true ∧ ∃ error, overRow.evaluate = .error error := by
  intro order sum first e overRow
  have evaluated : e.evaluate = .ok (.bool false) := rfl
  exact ⟨rfl, evaluated, ((evaluation_agrees_with_lowering e).2 rfl _).mp evaluated, rfl,
    (evaluation_agrees_with_lowering overRow).1 rfl⟩

end Expr

end Querycraft
