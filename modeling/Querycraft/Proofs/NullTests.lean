/-
  Querycraft.Proofs.NullTests — tests for `NULL` behind negations.

  The negation of `NULL` is `NULL`, so a column behind any number of negations is `NULL`
  exactly where the column is, and a test for it should not see them. Two rules meet
  here. In normal terms an odd number of negations leaves one, and it is taken out of
  the equality and put in front. A condition writes an equality with `NULL` as a test,
  which is never unknown. So the negation turns the test around. Proved, for every
  number of negations, with conversions and quotations anywhere between them, and `NULL`
  on either side:
  - the test is accepted, and holds where the column is `NULL` or, after an odd number
    of negations, exactly where it is not (`null_test_of_wrapped`);
  - so it tests the column exactly when their number is even
    (`null_test_survives_iff_even`).
  `a_negated_column_is_tested_for_the_opposite` is the smallest trace that fails.
-/

import Querycraft.Proofs.Conditions

namespace Querycraft

theorem Truth.ofBool_eq_yes {b : Bool} : ofBool b = .yes ↔ b = true := by
  cases b <;> decide

/-! ## Operands behind negations -/

namespace Expr

inductive Wrapper where
  | not
  | convert
  | quote
  deriving DecidableEq

def Wrapper.apply : Wrapper → Expr → Expr
  | .not => .not
  | .convert => .convert
  | .quote => .quote

def wrapped (e : Expr) (wrappers : List Wrapper) : Expr := wrappers.foldr Wrapper.apply e

/-- `operand = NULL` or `operand <> NULL`, or the same with its sides exchanged. -/
def nullTest (negated exchanged : Bool) (operand null : Expr) : Expr :=
  let op : Operator := if negated then .notEqual else .equal
  if exchanged then .binary op null operand else .binary op operand null

end Expr

namespace Term

def negatedTimes : Nat → Term → Term
  | 0, t => t
  | n + 1, t => .not (negatedTimes n t)

def nullTest (negated exchanged : Bool) (operand : Term) : Term :=
  let op : Operator := if negated then .notEqual else .equal
  if exchanged then .operation op (.value .null) operand else .operation op operand (.value .null)

theorem ofExpr_wrapped {e : Expr} {t : Term} (h : ofExpr e = .ok t) (wrappers : List Expr.Wrapper) :
    ofExpr (e.wrapped wrappers) = .ok (t.negatedTimes (wrappers.count .not)) := by
  induction wrappers with
  | nil => exact h
  | cons wrapper rest ih =>
    cases wrapper with
    | not =>
      show ofExpr (.not (e.wrapped rest)) = _
      rw [ofExpr_not, ih, List.count_cons_self]
      rfl
    | convert =>
      show ofExpr (e.wrapped rest) = _
      rw [ih, List.count_cons_of_ne (by decide)]
    | quote =>
      show ofExpr (e.wrapped rest) = _
      rw [ih, List.count_cons_of_ne (by decide)]

theorem ofExpr_nullTest {operand null : Expr} {t : Term} (lowered : ofExpr operand = .ok t)
    (isNull : ofExpr null = .ok (.value .null)) (negated exchanged : Bool) :
    ofExpr (Expr.nullTest negated exchanged operand null) = .ok (t.nullTest negated exchanged) := by
  cases negated <;> cases exchanged <;>
    (simp only [Expr.nullTest, Bool.false_eq_true, if_true, if_false, ofExpr_binary, Operator.isArithmetic, lowered,
      isNull]
     rfl)

/-- Of the negations of a column one is left if their number is odd. -/
theorem normalize_negatedTimes (c : Column) (n : Nat) :
    ((Term.column c).negatedTimes n).normalize = if n % 2 = 1 then .not (.column c) else .column c := by
  induction n with
  | zero => rfl
  | succ n ih =>
    show (((Term.column c).negatedTimes n).normalize).negate = _
    rw [ih]
    by_cases odd : n % 2 = 1
    · rw [if_pos odd, if_neg (by omega)]
      rfl
    · rw [if_neg odd, if_pos (by omega)]
      rfl

/-- It leaves its side of the equality. -/
theorem normalize_nullTest (c : Column) (n : Nat) (negated exchanged : Bool) :
    (((Term.column c).negatedTimes n).nullTest negated exchanged).normalize =
      if n % 2 = 1 then .not ((Term.column c).nullTest negated exchanged)
      else (Term.column c).nullTest negated exchanged := by
  have sides := normalize_negatedTimes c n
  by_cases odd : n % 2 = 1
  · rw [if_pos odd] at sides ⊢
    cases negated <;> cases exchanged <;> simp [nullTest, normalize, sides, Operator.isEquality, equality, negate]
  · rw [if_neg odd] at sides ⊢
    cases negated <;> cases exchanged <;> simp [nullTest, normalize, sides, Operator.isEquality, equality]

/-! ## Conditions of tests -/

section Tests

variable (c : Column) (negated exchanged : Bool)

theorem emit_nullTest : ((Term.column c).nullTest negated exchanged).emit = .one (.nullTest c negated) := by
  cases negated <;> cases exchanged <;> rfl

theorem isPredicate_nullTest : ((Term.column c).nullTest negated exchanged).IsPredicate := by
  cases negated <;> cases exchanged <;> exact .comparison rfl rfl

/-- A test is true or false in every row. -/
theorem truth_nullTest (S : Semantics) (row : Column → Value) :
    ((Term.column c).nullTest negated exchanged).truth S row = .ofBool ((row c).isNull != negated) := by
  cases negated <;> cases exchanged <;> simp [nullTest, truth, pair?, Operator.converse, Semantics.test, Value.isNull]

end Tests

end Term

namespace Draft

open Drafting

/-- A term of a predicate that is emitted on a fresh draft is read back with its meaning. -/
theorem reading_of_resolved {e : Expr} {t : Term} (resolved : Term.resolve e = .ok t) (predicate : t.IsPredicate)
    (emitted : t.emit.failure = none) {d : Draft} (fresh : d.Fresh) :
    ∃ phrase, Gives (Draft.predicate e) d () (d.pushAll t.emit.fragments) ∧
      (d.pushAll t.emit.fragments).reading? = some phrase ∧
      ∀ S row, phrase.truth S row = t.truth S (d.dialect.columnsOf row) := by
  have rules := Term.emits_of_emit t emitted
  obtain ⟨phrase, reads, means⟩ := Term.readsAs_of_emits d.dialect rules predicate
  refine ⟨phrase, gives_predicate.mpr ⟨t, resolved, emitted, rfl⟩, ?_, means⟩
  rw [reading?_pushAll fresh (Fragment.shows_of_emits d.dialect rules)]
  exact reads.inside.read?

/-- A test of a wrapped column is accepted, and an odd number of negations turns it around. -/
theorem null_test_of_wrapped {e null : Expr} {c : Column} (column : Term.ofExpr e = .ok (.column c))
    (isNull : Term.ofExpr null = .ok (.value .null)) (wrappers : List Expr.Wrapper) (negated exchanged : Bool)
    {d : Draft} (fresh : d.Fresh) :
    ∃ d' phrase, Gives (predicate (Expr.nullTest negated exchanged (e.wrapped wrappers) null)) d () d' ∧
      d'.reading? = some phrase ∧
      ∀ S row, phrase.truth S row =
        .ofBool (((d.dialect.columnsOf row c).isNull != negated) != (wrappers.count .not % 2 == 1)) := by
  have lowered := Term.ofExpr_nullTest (Term.ofExpr_wrapped column wrappers) isNull negated exchanged
  have resolved : Term.resolve (Expr.nullTest negated exchanged (e.wrapped wrappers) null) =
      .ok (((Term.column c).negatedTimes (wrappers.count .not)).nullTest negated exchanged).normalize := by
    rw [Term.resolve, lowered]
    rfl
  rw [Term.normalize_nullTest] at resolved
  have test := Term.isPredicate_nullTest c negated exchanged
  have emitted : ((Term.column c).nullTest negated exchanged).emit.failure = none := by
    rw [Term.emit_nullTest]
    rfl
  by_cases odd : wrappers.count .not % 2 = 1
  · rw [if_pos odd] at resolved
    obtain ⟨phrase, accepted, read, means⟩ :=
      reading_of_resolved resolved (.not test) ((Term.failure_emit_not _).trans emitted) fresh
    refine ⟨_, phrase, accepted, read, fun S row => ?_⟩
    rw [means, Term.truth, Term.truth_nullTest, Truth.not_ofBool, odd]
    simp
  · rw [if_neg odd] at resolved
    obtain ⟨phrase, accepted, read, means⟩ := reading_of_resolved resolved test emitted fresh
    refine ⟨_, phrase, accepted, read, fun S row => ?_⟩
    have even : wrappers.count .not % 2 = 0 := by omega
    rw [means, Term.truth_nullTest, even]
    simp

/-- A test of a column behind negations is accepted. It says of every row whether the
    column is `NULL`, turned around if the negations are odd in number, and so tests the
    column exactly if they are even. -/
theorem null_test_survives_iff_even {e null : Expr} {c : Column} (column : Term.ofExpr e = .ok (.column c))
    (isNull : Term.ofExpr null = .ok (.value .null)) (wrappers : List Expr.Wrapper) (negated exchanged : Bool)
    (dialect : Dialect) (table stem : String) (index : Nat) :
    ∃ d' phrase,
      (predicate (Expr.nullTest negated exchanged (e.wrapped wrappers) null)).run
        (((onTable dialect table).withStem stem).numberedFrom index) = (.ok (), d') ∧
      d'.reading? = some phrase ∧
      (∀ S row, phrase.truth S row =
        .ofBool (((dialect.columnsOf row c).isNull != negated) != (wrappers.count .not % 2 == 1))) ∧
      ((∀ S row, phrase.truth S row = .yes ↔ (dialect.columnsOf row c).isNull = !negated) ↔
        wrappers.count .not % 2 = 0) := by
  have fresh : (((onTable dialect table).withStem stem).numberedFrom index).Fresh := ⟨rfl, rfl, rfl⟩
  obtain ⟨d', phrase, accepted, read, means⟩ :=
    null_test_of_wrapped column isNull wrappers negated exchanged fresh
  refine ⟨d', phrase, accepted, read, means, ?_, ?_⟩
  · intro tests
    -- a row of `NULL`s tells the two apart
    have atNull := tests ⟨fun _ _ _ => .unknown, fun _ _ => .unknown, fun _ => .unknown⟩ fun _ => .null
    rw [means, Truth.ofBool_eq_yes] at atNull
    by_cases odd : wrappers.count .not % 2 = 1
    · rw [odd] at atNull
      cases negated <;> simp [Dialect.columnsOf, Value.isNull] at atNull
    · omega
  · intro even S row
    rw [means, Truth.ofBool_eq_yes, even]
    cases negated <;> simp [withStem, numberedFrom, onTable]

/-- `NULL <> CONVERT(NOT (QUOTE(NOT role)))`: two negations, and the column is tested. -/
theorem null_test_survives_iff_even_twice :
    let users : Entity := ⟨"User", "users", []⟩
    let wrappers : List Expr.Wrapper := [.convert, .not, .quote, .not]
    Term.ofExpr (.field users "role") = .ok (.column ⟨"users", "role"⟩) ∧
    Term.ofExpr (.constant .null) = .ok (.value .null) ∧
    ∃ d' phrase,
      (predicate (Expr.nullTest true true ((Expr.field users "role").wrapped wrappers) (.constant .null))).run
        (((onTable .postgres "users").withStem "P").numberedFrom 2) = (.ok (), d') ∧
      d'.reading? = some phrase ∧
      ∀ S row, phrase.truth S row = .yes ↔ (Dialect.postgres.columnsOf row ⟨"users", "role"⟩).isNull = false := by
  intro users wrappers
  have column : Term.ofExpr (.field users "role") = .ok (.column ⟨"users", "role"⟩) := rfl
  have isNull : Term.ofExpr (.constant .null) = .ok (.value .null) := rfl
  obtain ⟨d', phrase, accepted, read, -, survives⟩ :=
    null_test_survives_iff_even column isNull wrappers true true .postgres "users" "P" 2
  exact ⟨column, isNull, d', phrase, accepted, read, survives.mpr (by decide)⟩

/-- `(NOT role) = NULL` becomes `NOT (Users.Role IS NULL)`, which lets every row through
    whose role is there, and no other. -/
theorem a_negated_column_is_tested_for_the_opposite :
    let users : Entity := ⟨"User", "Users", [("role", "Role")]⟩
    let role : Column := ⟨"Users", "Role"⟩
    let test : Expr := .binary .equal (.not (.field users "role")) (.constant .null)
    ∃ d' phrase, (predicate test).run (onTable .sqlite "Users") = (.ok (), d') ∧
      d'.conditions = [.negation, .opening, .nullTest role false, .closing] ∧
      d'.reading? = some phrase ∧
      (∀ S row, phrase.truth S row = .yes ↔ (Dialect.sqlite.columnsOf row role).isNull = false) ∧
      (∀ S, phrase.truth S (fun _ => .int 1) = .yes ∧ phrase.truth S (fun _ => .null) = .no) := by
  intro users role test
  have fresh : (onTable .sqlite "Users").Fresh := ⟨rfl, rfl, rfl⟩
  have column : Term.ofExpr (.field users "role") = .ok (.column role) := rfl
  have isNull : Term.ofExpr (.constant .null) = .ok (.value .null) := rfl
  obtain ⟨d', phrase, accepted, read, means⟩ := null_test_of_wrapped column isNull [.not] false false fresh
  refine ⟨d', phrase, accepted, ?_, read, fun S row => ?_, fun S => ⟨means S _, means S _⟩⟩
  · obtain rfl : ((predicate test).run (onTable .sqlite "Users")).2 = d' := congrArg Prod.snd accepted
    rfl
  · rw [means, Truth.ofBool_eq_yes]
    simp [onTable]

end Draft

end Querycraft
