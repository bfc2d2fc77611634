/-
  Querycraft.Proofs.Meaning — what predicates mean, in three truth values.

  A server's own rules for values are left open: `Semantics` has any relation between
  values that are there, and any reading of a value as a condition. What it cannot
  choose is `NULL`: a comparison with it is unknown, and unknown runs through the
  connectives as three-valued logic says.

  `Expr.truth` is the meaning of a predicate as it is written, for a row that gives
  every column a value. An equality of a column with `NULL` tests for it, a value on the
  left means the comparison with its sides exchanged, and a match is an equality or a
  comparison with the decorated pattern. `Term.truth` is the meaning of a term. Proved:
  (1) a predicate and the term it lowers to mean the same (`truth_ofExpr`);
  (2) so do a term and its normal form (`IsPredicate.normalize`).
-/

import Querycraft.Draft.Predicate
import Querycraft.Proofs.Emission

namespace Querycraft

/-! ## Three truth values -/

inductive Truth where
  | yes
  | no
  | unknown
  deriving DecidableEq

namespace Truth

def ofBool : Bool → Truth
  | true => .yes
  | false => .no

def not : Truth → Truth
  | .yes => .no
  | .no => .yes
  | .unknown => .unknown

def and : Truth → Truth → Truth
  | .no, _ | _, .no => .no
  | .yes, .yes => .yes
  | _, _ => .unknown

def or : Truth → Truth → Truth
  | .yes, _ | _, .yes => .yes
  | .no, .no => .no
  | _, _ => .unknown

@[simp] theorem not_not (t : Truth) : t.not.not = t := by
  cases t <;> rfl

@[simp] theorem not_ofBool (b : Bool) : (ofBool b).not = ofBool !b := by
  cases b <;> rfl

theorem or_assoc (a b c : Truth) : (a.or b).or c = a.or (b.or c) := by
  cases a <;> cases b <;> cases c <;> rfl

theorem or_eq_yes {a b : Truth} : a.or b = .yes ↔ a = .yes ∨ b = .yes := by
  cases a <;> cases b <;> decide

theorem or_and (a b c : Truth) : (a.or b).and c = (a.and c).or (b.and c) := by
  cases a <;> cases b <;> cases c <;> rfl

theorem left_of_and {a b : Truth} (h : a.and b = .yes) : a = .yes := by
  cases a <;> cases b <;> first | rfl | cases h

end Truth

structure Semantics where
  /-- A comparison of two values that are there. -/
  compares : Operator → Value → Value → Truth
  /-- A match of a value against a pattern, both there. -/
  fits : Value → Value → Truth
  /-- A value as a condition, neither `NULL` nor a truth value. -/
  holds : Value → Truth

namespace Semantics

def compare (S : Semantics) (op : Operator) (a b : Value) : Truth :=
  if a.isNull || b.isNull then .unknown else S.compares op a b

def like (S : Semantics) (a pattern : Value) : Truth :=
  if a.isNull || pattern.isNull then .unknown else S.fits a pattern

def truthOf (S : Semantics) : Value → Truth
  | .null => .unknown
  | .bool b => .ofBool b
  | v => S.holds v

def test (S : Semantics) (op : Operator) (a v : Value) : Truth :=
  if v.isNull then
    match op with
    | .equal => .ofBool a.isNull
    | .notEqual => .ofBool !a.isNull
    | _ => .unknown
  else S.compare op a v

theorem test_of_value {op : Operator} {v : Value} (S : Semantics) (a : Value) (h : v.isNull = false) :
    S.test op a v = S.compare op a v := by
  simp [test, h]

def textMatch (S : Semantics) (m : TextMatch) (a : Value) (text : String) : Truth :=
  match m with
  | .equals => S.compare .equal a (.text text)
  | m => S.like a (.text (m.pattern text))

end Semantics

/-! ## Predicates as they are written -/

namespace Expr

section Truth

variable (S : Semantics) (row : Column → Value)

def constantTruth (e : Expr) : Truth :=
  match e.evaluate with
  | .ok v => S.truthOf v
  | .error _ => .unknown

def comparisonTruth (op : Operator) (left right : Expr) : Truth :=
  match left.column?, right.column? with
  | some a, some b => S.compare op (row a) (row b)
  | some c, none =>
    match right.evaluate with
    | .ok v => S.test op (row c) v
    | .error _ => .unknown
  | none, some c =>
    match left.evaluate with
    | .ok v => S.test op.converse (row c) v
    | .error _ => .unknown
  | none, none => .unknown

def methodTruth (receiver : Expr) (method : String) (arguments : List Expr) : Truth :=
  match receiver.column?, TextMatch.ofName? method, arguments with
  | some c, some m, [argument] =>
    match argument.evaluate with
    | .ok (.text text) => S.textMatch m (row c) text
    | _ => .unknown
  | _, _, _ => .unknown

def truth : Expr → Truth
  | .not operand => (truth operand).not
  | .convert operand | .quote operand => truth operand
  | .binary op left right =>
    match op with
    | .and => (truth left).and (truth right)
    | .or => (truth left).or (truth right)
    | op =>
      if op.isComparison then comparisonTruth S row op left right
      else constantTruth S (.binary op left right)
  | .member target name owner =>
    match (Expr.member target name owner).column? with
    | some c => S.truthOf (row c)
    | none => constantTruth S (.member target name owner)
  | .invoke receiver method arguments host =>
    if receiver.rowEntity?.isSome then methodTruth S row receiver method arguments
    else constantTruth S (.invoke receiver method arguments host)
  | e => constantTruth S e

end Truth

/-- Predicates: connectives, conversions and quotations over comparisons of a column with
    a column or a constant, matches of a column, columns, and truth values. -/
inductive IsPredicate : Expr → Prop
  | and {l r : Expr} : IsPredicate l → IsPredicate r → IsPredicate (.binary .and l r)
  | or {l r : Expr} : IsPredicate l → IsPredicate r → IsPredicate (.binary .or l r)
  | not {e : Expr} : IsPredicate e → IsPredicate (.not e)
  | convert {e : Expr} : IsPredicate e → IsPredicate (.convert e)
  | quote {e : Expr} : IsPredicate e → IsPredicate (.quote e)
  | columns {op : Operator} {l r : Expr} {a b : Column} : op.isComparison = true →
      Term.ofExpr l = .ok (.column a) → Term.ofExpr r = .ok (.column b) → IsPredicate (.binary op l r)
  | withValue {op : Operator} {l r : Expr} {c : Column} {v : Value} : op.isComparison = true →
      Term.ofExpr l = .ok (.column c) → Term.ofExpr r = .ok (.value v) → IsPredicate (.binary op l r)
  | mirrored {op : Operator} {l r : Expr} {c : Column} {v : Value} : op.isComparison = true →
      Term.ofExpr l = .ok (.value v) → Term.ofExpr r = .ok (.column c) → IsPredicate (.binary op l r)
  | like {receiver argument : Expr} {method : String} {host : Option Host} {c : Column} {m : TextMatch}
      {text : String} : Term.ofExpr receiver = .ok (.column c) → TextMatch.ofName? method = some m →
      argument.evaluate = .ok (.text text) → IsPredicate (.invoke receiver method [argument] host)
  | column {e : Expr} {c : Column} : Term.ofExpr e = .ok (.column c) → IsPredicate e
  | constant {e : Expr} {b : Bool} : Term.ofExpr e = .ok (.value (.bool b)) → IsPredicate e

end Expr

/-! ## Terms -/

namespace Term

def truth (S : Semantics) (row : Column → Value) : Term → Truth
  | .column c => S.truthOf (row c)
  | .value v => S.truthOf v
  | .not operand => (truth S row operand).not
  | .like m c text => S.textMatch m (row c) text
  | .operation op left right =>
    match op with
    | .and => (truth S row left).and (truth S row right)
    | .or => (truth S row left).or (truth S row right)
    | op =>
      match pair? op left right with
      | some (.withValue c op v) => S.test op (row c) v
      | some (.columns a op b) => S.compare op (row a) (row b)
      | none => .unknown

inductive IsPredicate : Term → Prop
  | column (c : Column) : IsPredicate (.column c)
  | constant (b : Bool) : IsPredicate (.value (.bool b))
  | not {t : Term} : IsPredicate t → IsPredicate (.not t)
  | and {l r : Term} : IsPredicate l → IsPredicate r → IsPredicate (.operation .and l r)
  | or {l r : Term} : IsPredicate l → IsPredicate r → IsPredicate (.operation .or l r)
  | like (m : TextMatch) (c : Column) (text : String) : IsPredicate (.like m c text)
  | comparison {op : Operator} {l r : Term} {pair : Pair} : op.isComparison = true →
      pair? op l r = some pair → IsPredicate (.operation op l r)

theorem ofExpr_member (target : Expr) (name : String) (owner : Option Entity) :
    ofExpr (.member target name owner) =
      match target.rowEntity? with
      | some row => .ok (.column (Expr.chainColumn row name owner))
      | none => (Expr.member target name owner).evaluate.map .value := rfl

theorem ofExpr_not (e : Expr) : ofExpr (.not e) = (ofExpr e).map .not := rfl

theorem ofExpr_binary (op : Operator) (l r : Expr) :
    ofExpr (.binary op l r) =
      if op.isArithmetic then
        if (Expr.binary op l r).mentionsRow then .error (.arithmeticOnColumn op)
        else (Expr.binary op l r).evaluate.map .value
      else do
        let l ← ofExpr l
        let r ← ofExpr r
        return .operation op l r := rfl

section Methods

-- comparing the branches does not need the table of names
attribute [local irreducible] TextMatch.ofName?

theorem ofExpr_invoke (receiver : Expr) (method : String) (arguments : List Expr) (host : Option Host) :
    ofExpr (.invoke receiver method arguments host) =
      if receiver.rowEntity?.isSome then
        match TextMatch.ofName? method, arguments with
        | none, _ => .error (.methodOnColumn method)
        | some m, [argument] =>
          match ofExpr receiver with
          | .ok (.column c) => do
            match ← argument.evaluate with
            | .text text => .ok (.like m c text)
            | other => .error (.textExpected m other.kind)
          | .ok _ => .error (.columnExpected receiver.shape)
          | .error e => .error e
        | some m, arguments => .error (.argumentCount m arguments.length)
      else (Expr.invoke receiver method arguments host).evaluate.map .value := rfl

end Methods

theorem truth_comparison {op : Operator} (h : op.isComparison = true) (S : Semantics) (row : Column → Value)
    (l r : Term) :
    (Term.operation op l r).truth S row =
      match pair? op l r with
      | some (.withValue c op v) => S.test op (row c) v
      | some (.columns a op b) => S.compare op (row a) (row b)
      | none => .unknown := by
  cases op <;> first | rfl | cases h

end Term

namespace Expr

theorem truth_comparison {op : Operator} (h : op.isComparison = true) (S : Semantics) (row : Column → Value)
    (l r : Expr) : (Expr.binary op l r).truth S row = comparisonTruth S row op l r := by
  cases op <;> first | rfl | cases h

/-! ## Lowering keeps the meaning -/

theorem rowEntity?_of_column? : ∀ {e : Expr} {c : Column}, e.column? = some c → e.rowEntity?.isSome = true
  | .member target name owner, c, h => by
    obtain ⟨row, found, -⟩ := Option.map_eq_some_iff.mp h
    simp [rowEntity?, found]
  | .convert operand, _, h => rowEntity?_of_column? (e := operand) h
  | .quote operand, _, h => rowEntity?_of_column? (e := operand) h

/-- What an expression without operators stands for: a column, or the value it has. -/
inductive StandsFor (e : Expr) : Term → Prop
  | column {c : Column} : e.column? = some c → (∀ S row, e.truth S row = S.truthOf (row c)) →
      StandsFor e (.column c)
  | value {v : Value} : e.column? = none → e.evaluate = .ok v →
      (∀ S row, e.truth S row = S.truthOf v) → StandsFor e (.value v)
  /-- Not an expression of this kind. -/
  | other {t : Term} : (∀ c, t ≠ .column c) → (∀ v, t ≠ .value v) → StandsFor e t

theorem constantTruth_of_evaluate {S : Semantics} {e : Expr} {v : Value} (h : e.evaluate = .ok v) :
    constantTruth S e = S.truthOf v := by
  simp only [constantTruth, h]

/-- An expression that is evaluated at once stands for its value. -/
theorem standsFor_value {e : Expr} {t : Term} (none : e.column? = none)
    (truth : ∀ S row, e.truth S row = constantTruth S e) (h : e.evaluate.map Term.value = .ok t) :
    StandsFor e t := by
  cases evaluated : e.evaluate with
  | error error =>
    rw [evaluated] at h
    cases h
  | ok v =>
    rw [evaluated] at h
    cases h
    exact .value none evaluated fun S row => (truth S row).trans (constantTruth_of_evaluate evaluated)

/-- Operands of an operator that is not arithmetic are lowered one by one. -/
theorem ofExpr_operation {op : Operator} {l r : Expr} {t : Term} (h : op.isArithmetic = false)
    (lowered : Term.ofExpr (.binary op l r) = .ok t) :
    ∃ l' r', Term.ofExpr l = .ok l' ∧ Term.ofExpr r = .ok r' ∧ t = .operation op l' r' := by
  rw [Term.ofExpr_binary, h] at lowered
  cases left : Term.ofExpr l with
  | error e =>
    rw [left] at lowered
    cases lowered
  | ok l' =>
    cases right : Term.ofExpr r with
    | error e =>
      rw [left, right] at lowered
      cases lowered
    | ok r' =>
      rw [left, right] at lowered
      cases lowered
      exact ⟨l', r', rfl, rfl, rfl⟩

theorem standsFor_binary {op : Operator} {l r : Expr} {t : Term}
    (h : Term.ofExpr (.binary op l r) = .ok t) : StandsFor (.binary op l r) t := by
  cases arithmetic : op.isArithmetic with
  | true =>
    rw [Term.ofExpr_binary, if_pos arithmetic] at h
    split at h
    · cases h
    · refine standsFor_value rfl (fun S row => ?_) h
      cases op <;> first | rfl | cases arithmetic
  | false =>
    obtain ⟨l', r', -, -, rfl⟩ := ofExpr_operation arithmetic h
    exact .other (fun _ same => by cases same) (fun _ same => by cases same)

/-- A method of a row is a match, or nothing. -/
theorem ofExpr_method {receiver : Expr} {method : String} {arguments : List Expr} {host : Option Host} {t : Term}
    (onRow : receiver.rowEntity?.isSome = true)
    (h : Term.ofExpr (.invoke receiver method arguments host) = .ok t) : ∃ m c text, t = .like m c text := by
  rw [Term.ofExpr_invoke, if_pos onRow] at h
  split at h
  · cases h
  · rename_i m argument _
    split at h
    · cases evaluated : argument.evaluate with
      | error e =>
        rw [evaluated] at h
        cases h
      | ok v =>
        rw [evaluated] at h
        cases v with
        | text text =>
          cases h
          exact ⟨m, _, text, rfl⟩
        | _ => cases h
    · cases h
    · cases h
  · cases h

theorem standsFor_invoke {receiver : Expr} {method : String} {arguments : List Expr} {host : Option Host}
    {t : Term} (h : Term.ofExpr (.invoke receiver method arguments host) = .ok t) :
    StandsFor (.invoke receiver method arguments host) t := by
  cases onRow : receiver.rowEntity?.isSome with
  | true =>
    obtain ⟨m, c, text, rfl⟩ := ofExpr_method onRow h
    exact .other (fun _ same => by cases same) (fun _ same => by cases same)
  | false =>
    rw [Term.ofExpr_invoke, onRow] at h
    refine standsFor_value rfl (fun S row => ?_) h
    simp only [truth, onRow, Bool.false_eq_true, if_false]

theorem standsFor_member {target : Expr} {name : String} {owner : Option Entity} {t : Term}
    (h : Term.ofExpr (.member target name owner) = .ok t) : StandsFor (.member target name owner) t := by
  rw [Term.ofExpr_member] at h
  cases start : target.rowEntity? with
  | some row =>
    rw [start] at h
    cases h
    have column : (Expr.member target name owner).column? = some (chainColumn row name owner) := by
      simp only [column?, start, Option.map_some]
    exact .column column fun S rows => by simp only [truth, column]
  | none =>
    rw [start] at h
    have none : (Expr.member target name owner).column? = none := by
      simp only [column?, start, Option.map_none]
    exact standsFor_value none (fun S rows => by simp only [truth, none]) h

/-- A conversion or a quotation stands for what is inside. -/
theorem StandsFor.through {e e' : Expr} {t : Term} (h : StandsFor e t) (column : e'.column? = e.column?)
    (value : e'.evaluate = e.evaluate) (truth : ∀ S row, e'.truth S row = e.truth S row) : StandsFor e' t := by
  cases h with
  | column found meant => exact .column (column.trans found) fun S row => (truth S row).trans (meant S row)
  | value none evaluated meant =>
    exact .value (column.trans none) (value.trans evaluated) fun S row => (truth S row).trans (meant S row)
  | other noColumn noValue => exact .other noColumn noValue

theorem standsFor_ofExpr : ∀ {e : Expr} {t : Term}, Term.ofExpr e = .ok t → StandsFor e t
  | .constant v, _, h => standsFor_value rfl (fun _ _ => rfl) h
  | .enumConstant _ _ i, _, h => standsFor_value rfl (fun _ _ => rfl) h
  | .row _, _, h => by cases h
  | .member .., _, h => standsFor_member h
  | .not e, _, h => by
    rw [Term.ofExpr_not] at h
    cases inner : Term.ofExpr e with
    | error e =>
      rw [inner] at h
      cases h
    | ok t =>
      rw [inner] at h
      cases h
      exact .other (fun _ same => by cases same) (fun _ same => by cases same)
  | .convert e, _, h => (standsFor_ofExpr (e := e) h).through rfl rfl fun _ _ => rfl
  | .quote e, _, h => (standsFor_ofExpr (e := e) h).through rfl rfl fun _ _ => rfl
  | .binary .., _, h => standsFor_binary h
  | .invoke .., _, h => standsFor_invoke h
  | .call .., _, h => standsFor_value rfl (fun _ _ => rfl) h
  | .record _, _, h => by cases h

section Leaves

variable {e : Expr}

theorem column?_of_ofExpr {c : Column} (h : Term.ofExpr e = .ok (.column c)) : e.column? = some c := by
  cases standsFor_ofExpr h with
  | column found _ => exact found
  | other noColumn _ => exact absurd rfl (noColumn c)

theorem evaluate_of_ofExpr {v : Value} (h : Term.ofExpr e = .ok (.value v)) :
    e.column? = none ∧ e.evaluate = .ok v := by
  cases standsFor_ofExpr h with
  | value none evaluated _ => exact ⟨none, evaluated⟩
  | other _ noValue => exact absurd rfl (noValue v)

theorem truth_of_column {c : Column} (h : Term.ofExpr e = .ok (.column c)) (S : Semantics)
    (row : Column → Value) : e.truth S row = S.truthOf (row c) := by
  cases standsFor_ofExpr h with
  | column _ meant => exact meant S row
  | other noColumn _ => exact absurd rfl (noColumn c)

theorem truth_of_value {v : Value} (h : Term.ofExpr e = .ok (.value v)) (S : Semantics)
    (row : Column → Value) : e.truth S row = S.truthOf v := by
  cases standsFor_ofExpr h with
  | value _ _ meant => exact meant S row
  | other _ noValue => exact absurd rfl (noValue v)

end Leaves

/-- A comparison keeps its sides. -/
theorem ofExpr_comparison {op : Operator} {l r : Expr} {l' r' t : Term} (comparison : op.isComparison = true)
    (left : Term.ofExpr l = .ok l') (right : Term.ofExpr r = .ok r')
    (h : Term.ofExpr (.binary op l r) = .ok t) : t = .operation op l' r' := by
  have arithmetic : op.isArithmetic = false := by
    cases op <;> first | rfl | cases comparison
  obtain ⟨a, b, ha, hb, rfl⟩ := ofExpr_operation arithmetic h
  cases left.symm.trans ha
  cases right.symm.trans hb
  rfl

theorem ofExpr_like {receiver argument : Expr} {method : String} {host : Option Host} {c : Column}
    {m : TextMatch} {text : String} (column : Term.ofExpr receiver = .ok (.column c))
    (named : TextMatch.ofName? method = some m) (evaluated : argument.evaluate = .ok (.text text)) :
    Term.ofExpr (.invoke receiver method [argument] host) = .ok (.like m c text) := by
  rw [Term.ofExpr_invoke, if_pos (rowEntity?_of_column? (column?_of_ofExpr column)), named, column]
  simp only [evaluated]
  rfl

theorem truth_method {receiver argument : Expr} {method : String} {host : Option Host} {c : Column}
    {m : TextMatch} {text : String} (column : receiver.column? = some c)
    (named : TextMatch.ofName? method = some m) (evaluated : argument.evaluate = .ok (.text text))
    (S : Semantics) (row : Column → Value) :
    (Expr.invoke receiver method [argument] host).truth S row = S.textMatch m (row c) text := by
  rw [truth, if_pos (rowEntity?_of_column? column)]
  unfold methodTruth
  rw [column, named]
  simp only [evaluated]

/-- (1) A predicate and the term it lowers to mean the same. -/
theorem truth_ofExpr {e : Expr} {t : Term} (h : e.IsPredicate) (lowered : Term.ofExpr e = .ok t) :
    t.IsPredicate ∧ ∀ S row, t.truth S row = e.truth S row := by
  induction h generalizing t with
  | and _ _ ihl ihr =>
    obtain ⟨l', r', left, right, rfl⟩ := ofExpr_operation rfl lowered
    obtain ⟨pl, hl⟩ := ihl left
    obtain ⟨pr, hr⟩ := ihr right
    exact ⟨.and pl pr, fun S row => by simp only [Term.truth, truth, hl S row, hr S row]⟩
  | or _ _ ihl ihr =>
    obtain ⟨l', r', left, right, rfl⟩ := ofExpr_operation rfl lowered
    obtain ⟨pl, hl⟩ := ihl left
    obtain ⟨pr, hr⟩ := ihr right
    exact ⟨.or pl pr, fun S row => by simp only [Term.truth, truth, hl S row, hr S row]⟩
  | @not e _ ih =>
    rw [Term.ofExpr_not] at lowered
    cases inner : Term.ofExpr e with
    | error e =>
      rw [inner] at lowered
      cases lowered
    | ok u =>
      rw [inner] at lowered
      cases lowered
      obtain ⟨p, same⟩ := ih inner
      exact ⟨.not p, fun S row => congrArg Truth.not (same S row)⟩
  | convert _ ih => exact ih lowered
  | quote _ ih => exact ih lowered
  | columns comparison left right =>
    obtain rfl := ofExpr_comparison comparison left right lowered
    refine ⟨.comparison comparison rfl, fun S row => ?_⟩
    rw [Term.truth_comparison comparison, truth_comparison comparison, comparisonTruth,
      column?_of_ofExpr left, column?_of_ofExpr right]
    rfl
  | withValue comparison left right =>
    obtain rfl := ofExpr_comparison comparison left right lowered
    obtain ⟨none, evaluated⟩ := evaluate_of_ofExpr right
    refine ⟨.comparison comparison rfl, fun S row => ?_⟩
    rw [Term.truth_comparison comparison, truth_comparison comparison, comparisonTruth,
      column?_of_ofExpr left, none, evaluated]
    rfl
  | mirrored comparison left right =>
    obtain rfl := ofExpr_comparison comparison left right lowered
    obtain ⟨none, evaluated⟩ := evaluate_of_ofExpr left
    refine ⟨.comparison comparison rfl, fun S row => ?_⟩
    rw [Term.truth_comparison comparison, truth_comparison comparison, comparisonTruth,
      column?_of_ofExpr right, none, evaluated]
    rfl
  | like column named evaluated =>
    rw [ofExpr_like column named evaluated] at lowered
    cases lowered
    refine ⟨.like _ _ _, fun S row => ?_⟩
    rw [truth_method (column?_of_ofExpr column) named evaluated]
    rfl
  | column found =>
    cases found.symm.trans lowered
    exact ⟨.column _, fun S row => (truth_of_column found S row).symm⟩
  | constant found =>
    cases found.symm.trans lowered
    exact ⟨.constant _, fun S row => (truth_of_value found S row).symm⟩

end Expr

/-! ## Normal forms keep the meaning -/

namespace Term

theorem IsPredicate.negate {t : Term} (h : t.IsPredicate) :
    t.negate.IsPredicate ∧ ∀ S row, t.negate.truth S row = (t.truth S row).not := by
  cases h with
  | constant b => exact ⟨.constant !b, fun S row => (Truth.not_ofBool b).symm⟩
  | not inside => exact ⟨inside, fun S row => (Truth.not_not _).symm⟩
  | column c => exact ⟨.not (.column c), fun _ _ => rfl⟩
  | and l r => exact ⟨.not (.and l r), fun _ _ => rfl⟩
  | or l r => exact ⟨.not (.or l r), fun _ _ => rfl⟩
  | like m c text => exact ⟨.not (.like m c text), fun _ _ => rfl⟩
  | comparison comparison pair => exact ⟨.not (.comparison comparison pair), fun _ _ => rfl⟩

/-- A comparison of columns and values is normal. -/
theorem normalize_comparison {op : Operator} {l r : Term} {pair : Pair} (h : pair? op l r = some pair) :
    (Term.operation op l r).normalize = .operation op l r := by
  rcases pair?_cases h with ⟨c, v, rfl, rfl, -⟩ | ⟨v, c, rfl, rfl, -⟩ | ⟨a, b, rfl, rfl, -⟩ <;>
    (simp only [normalize]; split <;> rfl)

/-- (2) A term and its normal form mean the same. -/
theorem IsPredicate.normalize {t : Term} (h : t.IsPredicate) :
    t.normalize.IsPredicate ∧ ∀ S row, t.normalize.truth S row = t.truth S row := by
  induction h with
  | column c => exact ⟨.column c, fun _ _ => rfl⟩
  | constant b => exact ⟨.constant b, fun _ _ => rfl⟩
  | like m c text => exact ⟨.like m c text, fun _ _ => rfl⟩
  | not _ ih =>
    obtain ⟨p, same⟩ := ih
    exact ⟨p.negate.1, fun S row => (p.negate.2 S row).trans (congrArg Truth.not (same S row))⟩
  | and _ _ ihl ihr =>
    refine ⟨.and ihl.1 ihr.1, fun S row => ?_⟩
    simp only [truth, ← ihl.2 S row, ← ihr.2 S row]
    rfl
  | or _ _ ihl ihr =>
    refine ⟨.or ihl.1 ihr.1, fun S row => ?_⟩
    simp only [truth, ← ihl.2 S row, ← ihr.2 S row]
    rfl
  | comparison comparison pair =>
    rw [normalize_comparison pair]
    exact ⟨.comparison comparison pair, fun _ _ => rfl⟩

end Term

end Querycraft
