/-
  Querycraft.Proofs.Drafting — what a step of a draft gives.

  `Gives step d a d'` says that a step succeeds on a draft, with a result and a draft
  after it. Each way to build a step has one law that says exactly when the built step
  gives something, so a step that succeeded is taken apart from the outside in, down to
  changes of the draft.
-/

import Querycraft.Proofs.Binding
import Querycraft.Query.Basic

namespace Querycraft.Drafting

/-- The step succeeds on `d`: its result is `a` and the draft after it `d'`. -/
def Gives (step : Drafting α) (d : Draft) (a : α) (d' : Draft) : Prop :=
  step.run d = (.ok a, d')

theorem gives_of_isOk {step : Drafting α} {d : Draft} (h : (step.run d).1.isOk = true) :
    ∃ a d', Gives step d a d' := by
  unfold Gives
  revert h
  rcases step.run d with ⟨result, d'⟩
  cases result with
  | ok a => exact fun _ => ⟨a, d', rfl⟩
  | error e => exact fun h => by cases h

theorem eq_ok_of_toOption {ε α : Type} {result : Except ε α} {a : α} (h : result.toOption = some a) :
    result = .ok a := by
  cases result with
  | error e => cases h
  | ok b => exact congrArg Except.ok (Option.some.inj h)

/-- A step and what follows it: a failure ends the run where it happened. -/
theorem run_bind (step : Drafting α) (next : α → Drafting β) (d : Draft) :
    (step >>= next).run d =
      match step.run d with
      | (.ok a, d') => (next a).run d'
      | (.error e, d') => (.error e, d') := by
  rw [ExceptT.run_bind]
  simp only [bind, StateT.bind]
  rcases step.run d with ⟨result, d'⟩
  cases result with
  | ok a => rfl
  | error e => rfl

@[simp] theorem gives_pure {a b : α} {d d' : Draft} : Gives (pure a) d b d' ↔ a = b ∧ d = d' := by
  constructor
  · intro h
    cases h
    exact ⟨rfl, rfl⟩
  · rintro ⟨rfl, rfl⟩
    rfl

@[simp] theorem gives_throw {e : Error} {a : α} {d d' : Draft} : ¬ Gives (throw e) d a d' := by
  intro h
  cases h

@[simp] theorem gives_bind {step : Drafting α} {next : α → Drafting β} {b : β} {d d'' : Draft} :
    Gives (step >>= next) d b d'' ↔ ∃ a d', Gives step d a d' ∧ Gives (next a) d' b d'' := by
  simp only [Gives, run_bind]
  rcases step.run d with ⟨result, d'⟩
  cases result with
  | ok a =>
    constructor
    · intro h
      exact ⟨a, d', rfl, h⟩
    · rintro ⟨a, d₁, first, second⟩
      cases first
      exact second
  | error e =>
    constructor
    · intro h
      cases h
    · rintro ⟨a, d₁, first, -⟩
      cases first

@[simp] theorem gives_map {step : Drafting α} {f : α → β} {b : β} {d d' : Draft} :
    Gives (f <$> step) d b d' ↔ ∃ a, Gives step d a d' ∧ f a = b := by
  rw [← bind_pure_comp, gives_bind]
  simp only [gives_pure]
  constructor
  · rintro ⟨a, _, first, rfl, rfl⟩
    exact ⟨a, first, rfl⟩
  · rintro ⟨a, first, rfl⟩
    exact ⟨a, d', first, rfl, rfl⟩

/-- A step whose result says nothing. -/
@[simp] theorem exists_unit {p : PUnit → Prop} : (∃ u, p u) ↔ p ⟨⟩ :=
  ⟨fun ⟨_, h⟩ => h, fun h => ⟨_, h⟩⟩

@[simp] theorem gives_modify {f : Draft → Draft} {u : PUnit} {d d' : Draft} :
    Gives (modify f) d u d' ↔ f d = d' := by
  constructor
  · intro h
    cases h
    rfl
  · rintro rfl
    rfl

/-- A step after a change of the draft. -/
theorem gives_modify_then {f : Draft → Draft} {next : Drafting α} {a : α} {d d' : Draft} :
    Gives (do modify f; next) d a d' ↔ Gives next (f d) a d' := by
  simp

@[simp] theorem gives_get {a d d' : Draft} : Gives get d a d' ↔ d = a ∧ d = d' := by
  constructor
  · intro h
    cases h
    exact ⟨rfl, rfl⟩
  · rintro ⟨rfl, rfl⟩
    rfl

@[simp] theorem gives_set {s : Draft} {u : PUnit} {d d' : Draft} : Gives (set s) d u d' ↔ s = d' := by
  constructor
  · intro h
    cases h
    rfl
  · rintro rfl
    rfl

end Querycraft.Drafting

namespace Querycraft

/-- The normal term of an expression is that of the term it lowers to. -/
theorem Term.resolve_eq_ok {e : Expr} {term : Term} (h : Term.resolve e = .ok term) :
    ∃ lowered, Term.ofExpr e = .ok lowered ∧ lowered.normalize = term := by
  unfold Term.resolve at h
  cases found : Term.ofExpr e with
  | error error =>
    rw [found] at h
    cases h
  | ok lowered =>
    rw [found] at h
    exact ⟨lowered, rfl, Except.ok.inj h⟩

namespace Draft

open Drafting

/-! ## Conditions -/

@[simp] theorem gives_given {result : Except Error α} {a : α} {d d' : Draft} :
    Gives (given result) d a d' ↔ result = .ok a ∧ d = d' := by
  cases result with
  | ok b => simp [given, gives_pure]
  | error e => simp [given, gives_throw]

theorem columnOf_eq (e : Expr) : columnOf e = given (Column.ofExpr e) := by
  unfold columnOf
  cases Column.ofExpr e <;> rfl

theorem projectionOf_eq (e : Expr) : projectionOf e = given (Projected.ofExpr e) := by
  unfold projectionOf
  cases Projected.ofExpr e <;> rfl

@[simp] theorem gives_columnOf {e : Expr} {c : Column} {d d' : Draft} :
    Gives (columnOf e) d c d' ↔ Column.ofExpr e = .ok c ∧ d = d' := by
  rw [columnOf_eq, gives_given]

@[simp] theorem gives_projectionOf {e : Expr} {entries : List Projected} {d d' : Draft} :
    Gives (projectionOf e) d entries d' ↔ Projected.ofExpr e = .ok entries ∧ d = d' := by
  rw [projectionOf_eq, gives_given]

theorem gives_emit {emission : Emission} {u : Unit} {d d' : Draft} :
    Gives (emit emission) d u d' ↔ emission.failure = none ∧ d.pushAll emission.fragments = d' := by
  unfold emit
  rw [gives_bind]
  simp only [gives_modify]
  cases emission.failure with
  | none =>
    constructor
    · rintro ⟨_, _, rfl, rest⟩
      exact ⟨rfl, (gives_pure.mp rest).2⟩
    · rintro ⟨-, rfl⟩
      exact ⟨(), _, rfl, gives_pure.mpr ⟨rfl, rfl⟩⟩
  | some e =>
    constructor
    · rintro ⟨_, _, rfl, rest⟩
      exact absurd rest gives_throw
    · rintro ⟨impossible, -⟩
      cases impossible

def joinedBy (connective : Fragment Value) (d : Draft) : Draft :=
  if d.hasConditions then d.push connective else d

/-- A predicate is accepted when it has a term and the term a condition; the fragments
    are then pushed in order. -/
theorem gives_predicate {e : Expr} {u : Unit} {d d' : Draft} :
    Gives (predicate e) d u d' ↔
      ∃ term, Term.resolve e = .ok term ∧ term.emit.failure = none ∧ d.pushAll term.emit.fragments = d' := by
  unfold predicate
  cases Term.resolve e with
  | ok term => simp [gives_emit]
  | error e => simp [gives_throw]

theorem gives_keyIn {key : Expr} {negated : Bool} {values : List Value} {u : Unit} {d d' : Draft} :
    Gives (keyIn key negated values) d u d' ↔
      ∃ c, Column.ofExpr key = .ok c ∧ d.push (.inList c negated values) = d' := by
  simp [keyIn, and_assoc]

theorem gives_keyBetween {key : Expr} {negated : Bool} {low high : Value} {u : Unit} {d d' : Draft} :
    Gives (keyBetween key negated low high) d u d' ↔
      ∃ c, Column.ofExpr key = .ok c ∧ d.push (.between c negated low high) = d' := by
  simp [keyBetween, and_assoc]

/-! ## Text drafted on the side -/

theorem gives_onOffshoot {table : String} {operation : Operation} {step : Drafting Unit}
    {d d' sub : Draft} :
    Gives (onOffshoot table operation step) d sub d' ↔
      Gives step (d.offshoot table operation) () sub ∧ d = d' := by
  simp only [onOffshoot, gives_bind, gives_get]
  constructor
  · rintro ⟨a, d₁, ⟨rfl, rfl⟩, rest⟩
    split at rest
    · rename_i found
      obtain ⟨rfl, rfl⟩ := gives_pure.mp rest
      exact ⟨found, rfl⟩
    · exact absurd rest gives_throw
  · rintro ⟨found, rfl⟩
    refine ⟨d, d, ⟨rfl, rfl⟩, ?_⟩
    rw [show step.run (d.offshoot table operation) = (.ok (), sub) from found]
    exact gives_pure.mpr ⟨rfl, rfl⟩

/-- A draft that went on numbering where this one stands is adopted by binding what it
    holds. -/
theorem gives_adopt {sub d d' : Draft} {values : List Value} {u : PUnit}
    (numbered : sub.Numbered d.counter values) (stem : sub.stem = d.stem)
    (h : Gives (adopt sub) d u d') : d' = d.bindValues values := by
  simp only [adopt, gives_bind, gives_get] at h
  obtain ⟨a, d₁, ⟨rfl, rfl⟩, rest⟩ := h
  split at rest
  · exact absurd rest gives_throw
  · rw [gives_set] at rest
    have taken : sub.parameters = ⟨d.numberedEntries (d.counter + 1) values⟩ := by
      rw [show sub.parameters = ⟨sub.parameters.entries⟩ from rfl, numbered.entries]
      simp only [numberedEntries, parameterName, stem]
    rw [← rest, bindValues, taken, numbered.counter, Nat.max_eq_right (by omega)]

theorem gives_keyInQuery {key : Expr} {negated : Bool} {query : Draft} {u : Unit} {d d' : Draft} :
    Gives (keyInQuery key negated query) d u d' ↔
      ∃ c sql d₁, Column.ofExpr key = .ok c ∧ query.command = .ok sql ∧ Gives (adopt query) d () d₁ ∧
        d₁.push (.inQuery c negated sql) = d' := by
  simp only [keyInQuery, inQuery, gives_bind, gives_columnOf]
  cases query.command with
  | ok sql =>
    simp only [gives_bind, gives_modify]
    constructor
    · rintro ⟨c, _, ⟨named, rfl⟩, _, d₁, adopted, pushed⟩
      exact ⟨c, sql, d₁, named, rfl, adopted, pushed⟩
    · rintro ⟨c, _, d₁, named, same, adopted, pushed⟩
      obtain rfl := Except.ok.inj same
      exact ⟨c, d, ⟨named, rfl⟩, (), d₁, adopted, pushed⟩
  | error e => simp

theorem gives_joinOn {kind : JoinKind} {table : String} {on : Expr} {u : Unit} {d d' : Draft} :
    Gives (joinOn kind table on) d u d' ↔
      ∃ sub d₁, Gives (predicate on) (d.offshoot table .condition) () sub ∧ Gives (adopt sub) d () d₁ ∧
        { d₁ with
          tables := d₁.tables ++ [table], joins := d₁.joins ++ [⟨kind, table, sub.conditionSql⟩] } = d' := by
  simp [joinOn, join, gives_onOffshoot, and_assoc]

theorem gives_renderArgument {e : Expr} {sql : Sql} {d d' : Draft} :
    Gives (renderArgument e) d sql d' ↔
      ∃ part, Gives (predicate e) (d.offshoot d.table .condition) () part ∧ Gives (adopt part) d () d' ∧
        part.conditionSql = sql := by
  simp [renderArgument, gives_onOffshoot, and_assoc]

theorem gives_renderArguments_nil {rendered : List Sql} {d d' : Draft} :
    Gives (renderArguments []) d rendered d' ↔ rendered = [] ∧ d = d' := by
  simp [renderArguments, eq_comm]

theorem gives_renderArguments_cons {e : Expr} {rest : List Expr} {rendered : List Sql} {d d' : Draft} :
    Gives (renderArguments (e :: rest)) d rendered d' ↔
      ∃ sql sqls d₁, Gives (renderArgument e) d sql d₁ ∧ Gives (renderArguments rest) d₁ sqls d' ∧
        rendered = sql :: sqls := by
  simp only [renderArguments, gives_bind, gives_pure]
  constructor
  · rintro ⟨sql, d₁, first, sqls, _, others, rfl, rfl⟩
    exact ⟨sql, sqls, d₁, first, others, rfl⟩
  · rintro ⟨sql, sqls, d₁, first, others, rfl⟩
    exact ⟨sql, d₁, first, sqls, d', others, rfl, rfl⟩

theorem gives_templated {template : String} {arguments : List Expr} {u : Unit} {d d' : Draft} :
    Gives (templated template arguments) d u d' ↔
      Template.unmatched? (Template.parse template.toList) arguments.length = none ∧
        ∃ rendered d₁, Gives (renderArguments arguments) d rendered d₁ ∧
          d₁.push (.verbatim (fill rendered (Template.parse template.toList))) = d' := by
  simp only [templated]
  split
  · rename_i digits found
    simp [found]
  · rename_i found
    simp [found]

/-! ## Other clauses -/

theorem gives_having {function : String} {key : Expr} {op : Operator} {value : Value} {u : Unit}
    {d d' : Draft} :
    Gives (having function key op value) d u d' ↔
      op.isComparison ∧ ∃ c, Column.ofExpr key = .ok c ∧ d.addGroupTest function c op value = d' := by
  unfold having
  cases op.isComparison with
  | true => simp [and_assoc]
  | false => simp

theorem foldl_addSelected (entries : List Projected) (d : Draft) :
    entries.foldl (fun d entry => d.addSelected entry.selected) d =
      { d with selection := d.selection ++ entries.map Projected.selected } := by
  induction entries generalizing d with
  | nil => simp
  | cons entry rest ih =>
    rw [List.foldl_cons, ih]
    simp [addSelected]

theorem gives_select {e : Expr} {u : Unit} {d d' : Draft} :
    Gives (select e) d u d' ↔
      ∃ entries, Projected.ofExpr e = .ok entries ∧
        entries.foldl (fun d entry => d.addSelected entry.selected) d = d' := by
  simp [select, and_assoc]

theorem gives_orderBy {key : Expr} {descending : Bool} {u : Unit} {d d' : Draft} :
    Gives (orderBy key descending) d u d' ↔
      ∃ c, Column.ofExpr key = .ok c ∧ d.addSortKey ⟨c, descending⟩ = d' := by
  simp [orderBy, and_assoc]

theorem gives_groupBy {key : Expr} {u : Unit} {d d' : Draft} :
    Gives (groupBy key) d u d' ↔ ∃ c, Column.ofExpr key = .ok c ∧ d.addGroup c = d' := by
  simp [groupBy, and_assoc]

/-- A function over projected columns only adds to the selection. -/
theorem gives_selectFunctionOf {function : String} {entries : List Projected} {u : Unit} {d d' : Draft}
    (h : Gives (selectFunctionOf function entries) d u d') :
    ∃ added, { d with selection := d.selection ++ added } = d' := by
  induction entries generalizing d with
  | nil => exact ⟨[], by simpa [selectFunctionOf] using h⟩
  | cons entry rest ih =>
    cases entry with
    | table t => simp [selectFunctionOf] at h
    | column c label =>
      simp only [selectFunctionOf, gives_bind, gives_modify, exists_unit] at h
      obtain ⟨_, rfl, others⟩ := h
      obtain ⟨added, rfl⟩ := ih others
      exact ⟨.function function c label :: added, by simp [addSelected]⟩

theorem gives_selectFunction {function : String} {e : Expr} {u : Unit} {d d' : Draft}
    (h : Gives (selectFunction function e) d u d') :
    ∃ added, { d with selection := d.selection ++ added } = d' := by
  simp only [selectFunction, gives_bind, gives_projectionOf] at h
  obtain ⟨entries, _, ⟨-, rfl⟩, rest⟩ := h
  exact gives_selectFunctionOf rest

/-! ## Rows and assignments -/

/-- A row is accepted when it has columns, and the same as the first row. -/
theorem gives_insertRow {row : List (String × Value)} {u : Unit} {d d' : Draft} :
    Gives (insertRow row) d u d' ↔
      row.isEmpty = false ∧ (d.rows.head?.any fun first => first.map Prod.fst ≠ row.map Prod.fst) = false ∧
        { d.bindValues (row.map Prod.snd) with
          rows := d.rows ++ [(row.map Prod.fst).zip (d.upcoming row.length)] } = d' := by
  simp only [insertRow, gives_bind, gives_get, bindAll_eq, List.length_map]
  constructor
  · rintro ⟨a, _, ⟨rfl, rfl⟩, rest⟩
    split at rest
    · exact absurd rest gives_throw
    · split at rest
      · exact absurd rest gives_throw
      · rename_i columns same
        exact ⟨by simpa using columns, by simpa using same, gives_set.mp rest⟩
  · rintro ⟨columns, same, rfl⟩
    refine ⟨d, d, ⟨rfl, rfl⟩, ?_⟩
    simp only [columns, same]
    exact gives_set.mpr rfl

theorem gives_insert {entity : Entity} {entries : List (String × Expr)} {u : Unit} {d d' : Draft} :
    Gives (insert entity (.record entries)) d u d' ↔
      ∃ row, rowOfEntries entity entries = .ok row ∧ Gives (insertRow row) d u d' := by
  simp [insert, and_assoc]

theorem insert_of_no_record {entity : Entity} {e : Expr} (h : e.shape ≠ .record) :
    insert entity e = throw (.rowExpected e.shape) := by
  cases e with
  | record entries => exact absurd rfl h
  | _ => rfl

theorem update_of_no_record {entity : Entity} {e : Expr} (h : e.shape ≠ .record) :
    update entity e = throw (.assignmentsExpected e.shape) := by
  cases e with
  | record entries => exact absurd rfl h
  | _ => rfl

/-- A document that is no object makes no row. -/
theorem insertValue_of_no_object (entity : Entity) {document : Json}
    (h : ∀ members, document ≠ .object members) :
    ∃ e, insertValue entity (Value.ofJson document) = throw e := by
  cases document with
  | object members => exact absurd rfl (h members)
  | number n =>
    cases n with
    | integer i =>
      simp only [Value.ofJson, Value.ofNumber]
      split <;> exact ⟨_, rfl⟩
    | float f => exact ⟨_, rfl⟩
  | _ => exact ⟨_, rfl⟩

theorem gives_assignValue {entity : Entity} {member : String} {e : Expr} {u : Unit} {d d' : Draft} :
    Gives (assignValue entity member e) d u d' ↔
      ∃ value, e.evaluate = .ok value ∧ d.assign (entity.columnName member) value = d' := by
  simp [assignValue, and_assoc]

/-- A method in an assignment is the replacing one, with two arguments. -/
theorem gives_assignMethod {receiver : Expr} {method : String} {arguments : List Expr} {u : Unit}
    {d d' : Draft} :
    Gives (assignMethod receiver method arguments) d u d' ↔
      ∃ c old new, Column.ofExpr receiver = .ok c ∧ isReplaceMethod method ∧
        Expr.evaluateAll arguments = .ok [old, new] ∧ d.assignReplaced c.name old new = d' := by
  simp only [assignMethod, gives_bind, gives_columnOf]
  cases isReplaceMethod method with
  | false => simp
  | true =>
    simp only [if_true, gives_bind, gives_given]
    constructor
    · rintro ⟨c, _, ⟨column, rfl⟩, values, _, ⟨evaluated, rfl⟩, rest⟩
      split at rest
      · exact ⟨c, _, _, column, trivial, evaluated, gives_modify.mp rest⟩
      · exact absurd rest gives_throw
    · rintro ⟨c, old, new, column, -, evaluated, rfl⟩
      exact ⟨c, d, ⟨column, rfl⟩, [old, new], d, ⟨evaluated, rfl⟩, gives_modify.mpr rfl⟩

theorem gives_assignEntries_cons {entity : Entity} {member : String} {e : Expr}
    {rest : List (String × Expr)} {u : Unit} {d d' : Draft} :
    Gives (assignEntries entity ((member, e) :: rest)) d u d' ↔
      ∃ d₁, Gives (assignEntry entity member e) d () d₁ ∧ Gives (assignEntries entity rest) d₁ u d' := by
  simp [assignEntries]

end Draft

/-! ## Programs -/

theorem Step.gives_runAll_append (entity : Entity) {first second : List Step} {d d' : Draft} :
    Drafting.Gives (runAll entity (first ++ second)) d () d' ↔
      ∃ d₁, Drafting.Gives (runAll entity first) d () d₁ ∧ Drafting.Gives (runAll entity second) d₁ () d' := by
  induction first generalizing d with
  | nil => simp [runAll]
  | cons s rest ih =>
    simp only [List.cons_append, runAll, Drafting.gives_bind, Drafting.exists_unit, ih]
    constructor
    · intro ⟨d₁, stepped, d₂, ran, others⟩
      exact ⟨d₂, ⟨d₁, stepped, ran⟩, others⟩
    · intro ⟨d₂, ⟨d₁, stepped, ran⟩, others⟩
      exact ⟨d₁, stepped, d₂, ran, others⟩

namespace Query

open Drafting

theorem step_eq_ok {q q' : Query} {s : Step} :
    q.step s = .ok q' ↔ ∃ d, Gives (s.run q.entity) q.draft () d ∧ q' = ⟨q.entity, d⟩ := by
  unfold step Gives
  rcases (s.run q.entity).run q.draft with ⟨result, d⟩
  cases result with
  | ok u =>
    constructor
    · rintro ⟨⟩
      exact ⟨d, rfl, rfl⟩
    · rintro ⟨_, ⟨⟩, rfl⟩
      rfl
  | error e =>
    constructor
    · rintro ⟨⟩
    · rintro ⟨_, ⟨⟩, -⟩

/-- A program on a query is the same program on its draft. -/
theorem run_eq_ok {q q' : Query} {program : List Step} :
    q.run program = .ok q' ↔
      ∃ d, Gives (Step.runAll q.entity program) q.draft () d ∧ q' = ⟨q.entity, d⟩ := by
  induction program generalizing q with
  | nil => simp [Query.run, Step.runAll, eq_comm]
  | cons s rest ih =>
    have first : q.run (s :: rest) = .ok q' ↔ ∃ q₁, q.step s = .ok q₁ ∧ q₁.run rest = .ok q' := by
      simp only [Query.run]
      cases q.step s with
      | ok q₁ => simp [bind, Except.bind]
      | error e => simp [bind, Except.bind]
    rw [first]
    simp only [Step.runAll, gives_bind, exists_unit]
    constructor
    · rintro ⟨q₁, stepped, ran⟩
      obtain ⟨d₁, h₁, rfl⟩ := step_eq_ok.mp stepped
      obtain ⟨d, h, rfl⟩ := ih.mp ran
      exact ⟨d, ⟨d₁, h₁, h⟩, rfl⟩
    · rintro ⟨d, ⟨d₁, h₁, h⟩, rfl⟩
      exact ⟨⟨q.entity, d₁⟩, step_eq_ok.mpr ⟨d₁, h₁, rfl⟩, ih.mpr ⟨d, h, rfl⟩⟩

end Query

end Querycraft
