/-
  Querycraft.Proofs.Portability — a dialect decides the spelling and nothing else.

  The outline of a draft is what is left of it when everything a dialect spells is struck
  out: the texts of placeholders, and the finished texts that joins, sub-queries and
  templates put into it. Two steps agree when, from drafts of one outline, they fail with
  one error or leave drafts of one outline. Each operation agrees with itself whatever the
  dialect of the draft it stands on, and `Drafting.Agrees.bind` chains them.

  Proved, for programs with sub-queries nested to any depth and any two dialects: the runs
  fail with the same error, or give the same parameters, the same counter and clauses with
  the same numbers of entries, and their queries have a text together or lack one for the
  same reason (`Query.substance_same_in_every_dialect`).
-/

import Querycraft.Proofs.Independence

namespace Querycraft

/-! ## Outlines -/

def Placeholder.unspelled (p : Placeholder) : Placeholder := { p with text := "" }

namespace Fragment

/-- The fragment with other operands, and without the finished text in it. -/
def outline (f : α → β) : Fragment α → Fragment β
  | .opening => .opening
  | .closing => .closing
  | .negation => .negation
  | .conjunction => .conjunction
  | .disjunction => .disjunction
  | .operator op => .operator op
  | .column c => .column c
  | .operand value => .operand (f value)
  | .compare c op value => .compare c op (f value)
  | .compareColumns left op right => .compareColumns left op right
  | .like c pattern => .like c (f pattern)
  | .nullTest c negated => .nullTest c negated
  | .inList c negated values => .inList c negated (values.map f)
  | .inQuery c negated _ => .inQuery c negated .empty
  | .between c negated low high => .between c negated (f low) (f high)
  | .verbatim _ => .verbatim .empty

theorem operands_outline (f : α → β) (fragment : Fragment α) :
    (fragment.outline f).operands = fragment.operands.map f := by
  cases fragment <;> rfl

/-- Numbering comes to the same before and after. -/
theorem outline_numbered (issue : Nat → β) (f : β → γ) (i : Nat) (fragment : Fragment α) :
    (fragment.numbered issue i).outline f = (fragment.outline id).numbered (f ∘ issue) i := by
  cases fragment with
  | inList c negated values =>
    rw [numbered_inList, outline, outline, numbered_inList, List.map_map, List.length_map]
  | _ => rfl

end Fragment

def Join.outline (join : Join) : Join := { join with on := .empty }

def GroupTest.outline (test : GroupTest) : GroupTest := { test with value := test.value.unspelled }

def Assignment.outline : Assignment → Assignment
  | .verbatim text => .verbatim text
  | .set c value => .set c value.unspelled
  | .replace c old new => .replace c old.unspelled new.unspelled

def Row.outline (row : Row) : Row := row.map fun (column, value) => (column, value.unspelled)

namespace Draft

/-- The draft without anything that a dialect spells. -/
def outline (d : Draft) : Draft :=
  { d with
    -- any dialect does: what matters is that it is the same one for every draft
    dialect := .mysql
    joins := d.joins.map Join.outline
    conditions := d.conditions.map (Fragment.outline Placeholder.unspelled)
    groupTests := d.groupTests.map GroupTest.outline
    assignments := d.assignments.map Assignment.outline
    rows := d.rows.map Row.outline }

def SameOutline (d d' : Draft) : Prop := d.outline = d'.outline

def unspelledAt (d : Draft) (i : Nat) : Placeholder := ⟨d.parameterName i, i - d.base, ""⟩

theorem unspelled_comp_issued (d : Draft) : Placeholder.unspelled ∘ d.issued = d.unspelledAt := rfl

def pushOutline (fragment : Fragment Value) (d : Draft) : Draft :=
  { d.bindValues fragment.operands with
    conditions := d.conditions ++ [fragment.numbered d.unspelledAt (d.counter + 1)] }

theorem outline_push (fragment : Fragment Value) (d : Draft) :
    (d.push fragment).outline = d.outline.pushOutline (fragment.outline id) := by
  rw [push_eq]
  simp only [pushOutline, Fragment.operands_outline, List.map_id]
  simp only [outline, List.map_append, List.map_singleton, Fragment.outline_numbered, unspelled_comp_issued]
  rfl

def addRow (row : List (String × Value)) (d : Draft) : Draft :=
  { d.bindValues (row.map Prod.snd) with
    rows := d.rows ++ [(row.map Prod.fst).zip (d.upcoming row.length)] }

theorem outline_addAssignment (assignment : Assignment) (d : Draft) :
    (d.addAssignment assignment).outline = d.outline.addAssignment assignment.outline := by
  simp [outline, addAssignment]

def clauseSizes (d : Draft) : List Nat :=
  [d.tables.length, d.joins.length, d.selection.length, d.conditions.length, d.ordering.length,
    d.grouping.length, d.groupTests.length, d.assignments.length, d.rows.length, d.output.length,
    d.filled.length]

theorem clauseSizes_outline (d : Draft) : d.outline.clauseSizes = d.clauseSizes := by
  simp [clauseSizes, outline]

/-- Why a draft has no command: an INSERT needs a row, and an UPDATE an assignment. -/
theorem command_map_unit (d : Draft) :
    d.command.map (fun _ => ()) =
      if d.operation = .insert ∧ d.rows.isEmpty then .error .noRows
      else if d.operation = .update ∧ d.assignments.isEmpty then .error .noAssignments
      else .ok () := by
  unfold command insertTarget
  cases operation : d.operation with
  | insert => by_cases none : d.rows.isEmpty = true <;> simp [none, Except.map]
  | update => by_cases none : d.assignments.isEmpty = true <;> simp [none, Except.map]
  | _ => simp [Except.map]

theorem command_outline (d : Draft) :
    d.outline.command.map (fun _ => ()) = d.command.map (fun _ => ()) := by
  rw [command_map_unit, command_map_unit]
  simp [outline]

namespace SameOutline

variable {d d' : Draft} (h : SameOutline d d')

include h

/-- What an outline keeps of a draft is the same in both. -/
theorem field (f : Draft → α) (kept : ∀ d, f d.outline = f d) : f d = f d' := by
  rw [← kept d, ← kept d', h]

theorem parameters : d.parameters = d'.parameters := h.field Draft.parameters fun _ => rfl

theorem counter : d.counter = d'.counter := h.field Draft.counter fun _ => rfl

theorem command : d.command.map (fun _ => ()) = d'.command.map (fun _ => ()) :=
  h.field (fun d => d.command.map fun _ => ()) command_outline

theorem offshoot (table : String) (operation : Operation) :
    SameOutline (d.offshoot table operation) (d'.offshoot table operation) :=
  congrArg (Draft.offshoot · table operation) h

/-- A change that puts in nothing spelled. -/
theorem change {f : Draft → Draft} (follows : ∀ d, (f d).outline = f d.outline) : SameOutline (f d) (f d') := by
  rw [SameOutline, follows, follows, h]

theorem push {fragment fragment' : Fragment Value} (same : fragment.outline id = fragment'.outline id) :
    SameOutline (d.push fragment) (d'.push fragment') := by
  rw [SameOutline, outline_push, outline_push, same, h]

theorem bindValues (values : List Value) : SameOutline (d.bindValues values) (d'.bindValues values) :=
  congrArg (Draft.bindValues values) h

/-- The next placeholders differ in nothing but their text. -/
theorem issued (n : Nat) :
    (d.issued (d.counter + n)).unspelled = (d'.issued (d'.counter + n)).unspelled :=
  h.field (fun d => (d.issued (d.counter + n)).unspelled) fun _ => rfl

theorem addAssignment {assignment assignment' : Assignment} (same : assignment.outline = assignment'.outline) :
    SameOutline (d.addAssignment assignment) (d'.addAssignment assignment') := by
  rw [SameOutline, outline_addAssignment, outline_addAssignment, same, h]

theorem assign (column : String) (value : Value) : SameOutline (d.assign column value) (d'.assign column value) :=
  (h.bindValues [value]).addAssignment (congrArg (Assignment.set column) (h.issued 1))

theorem assignReplaced (column : String) (old new : Value) :
    SameOutline (d.assignReplaced column old new) (d'.assignReplaced column old new) :=
  (h.bindValues [old, new]).addAssignment (congrArg₂ (Assignment.replace column) (h.issued 1) (h.issued 2))

theorem addGroupTest (function : String) (column : Column) (op : Operator) (value : Value) :
    SameOutline (d.addGroupTest function column op value) (d'.addGroupTest function column op value) := by
  have added : ∀ d : Draft, (d.addGroupTest function column op value).outline =
      { d.outline.bindValues [value] with
        groupTests := d.outline.groupTests ++
          [⟨function, column, op, (d.issued (d.counter + 1)).unspelled⟩] } := by
    intro d
    simp only [Draft.addGroupTest, outline, List.map_append]
    rfl
  rw [SameOutline, added, added, h.issued 1, h]

theorem addRow (row : List (String × Value)) : SameOutline (d.addRow row) (d'.addRow row) := by
  have cells : ∀ d : Draft, Row.outline ((row.map Prod.fst).zip (d.upcoming row.length)) =
      (row.map Prod.fst).zip ((List.range' (d.outline.counter + 1) row.length).map d.outline.unspelledAt) := by
    intro d
    show List.map (Prod.map id Placeholder.unspelled) _ = _
    rw [← List.zip_map_right, upcoming, List.map_map]
    rfl
  have added : ∀ d : Draft, (d.addRow row).outline =
      { d.outline.bindValues (row.map Prod.snd) with
        rows := d.outline.rows ++ [Row.outline ((row.map Prod.fst).zip (d.upcoming row.length))] } := by
    intro d
    simp only [Draft.addRow, outline, List.map_append]
    rfl
  rw [SameOutline, added, added, cells, cells, h]

theorem pushAll (fragments : List (Fragment Value)) : SameOutline (d.pushAll fragments) (d'.pushAll fragments) := by
  induction fragments generalizing d d' with
  | nil => exact h
  | cons fragment rest ih => exact ih (h.push rfl)

theorem joinedBy (connective : Fragment Value) : SameOutline (d.joinedBy connective) (d'.joinedBy connective) := by
  have same : d.hasConditions = d'.hasConditions := h.field hasConditions fun d => by simp [hasConditions, outline]
  unfold Draft.joinedBy
  rw [same]
  split
  · exact h.push rfl
  · exact h

end SameOutline

end Draft

/-! ## Steps that agree -/

/-- Results that look the same and what is made of them. -/
theorem map_bind_congr {v : α → γ} {w : β → δ} {x y : Except Error α} {f g : α → Except Error β}
    (h : x.map v = y.map v) (next : ∀ a b, v a = v b → (f a).map w = (g b).map w) :
    (x >>= f).map w = (y >>= g).map w := by
  cases x with
  | ok a =>
    cases y with
    | ok b => exact next a b (Except.ok.inj h)
    | error e => cases h
  | error e =>
    cases y with
    | ok b => cases h
    | error e' =>
      obtain rfl := Except.error.inj h
      rfl

namespace Drafting

/-- From drafts of one outline the steps fail with the same error, or give results that
    look the same and leave drafts of one outline. -/
def Agrees (view : α → γ) (x y : Drafting α) : Prop :=
  ∀ d d', Draft.SameOutline d d' →
    (x.outcome d).map (Prod.map view Draft.outline) = (y.outcome d').map (Prod.map view Draft.outline)

namespace Agrees

theorem bind {view : α → γ} {view' : β → δ} {x y : Drafting α} {f g : α → Drafting β} (h : Agrees view x y)
    (next : ∀ a b, view a = view b → Agrees view' (f a) (g b)) : Agrees view' (x >>= f) (y >>= g) := by
  intro d d' same
  rw [outcome_bind, outcome_bind]
  refine map_bind_congr (h d d' same) fun p q related => ?_
  have ⟨results, drafts⟩ := Prod.ext_iff.mp related
  exact next p.1 q.1 results p.2 q.2 drafts

/-- A result that is the same in both. -/
theorem chain {view : β → δ} {x y : Drafting α} {f g : α → Drafting β} (h : Agrees id x y)
    (next : ∀ a, Agrees view (f a) (g a)) : Agrees view (x >>= f) (y >>= g) :=
  h.bind fun a b same => (show a = b from same) ▸ next a

theorem pure {view : α → γ} {a b : α} (h : view a = view b) : Agrees view (Pure.pure a) (Pure.pure b) :=
  fun _ _ same => congrArg Except.ok (Prod.ext h same)

theorem throw (view : α → γ) (e : Error) : Agrees view (MonadExcept.throw e) (MonadExcept.throw e) :=
  fun _ _ _ => rfl

theorem modify {f g : Draft → Draft} (h : ∀ d d', Draft.SameOutline d d' → Draft.SameOutline (f d) (g d')) :
    Agrees id (modify f : Drafting Unit) (modify g) :=
  fun d d' same => congrArg Except.ok (Prod.ext rfl (h d d' same))

/-- A step that looks at the draft it stands on. -/
theorem get {view : α → γ} {f g : Draft → Drafting α}
    (h : ∀ d d', Draft.SameOutline d d' →
      ((f d).outcome d).map (Prod.map view Draft.outline) =
        ((g d').outcome d').map (Prod.map view Draft.outline)) :
    Agrees view (do f (← MonadState.get)) (do g (← MonadState.get)) := by
  intro d d' same
  rw [outcome_bind, outcome_bind]
  exact h d d' same

theorem given {view : α → γ} {x y : Except Error α} (h : x.map view = y.map view) :
    Agrees view (Draft.given x) (Draft.given y) := by
  intro d d' same
  have outcomes : ∀ (z : Except Error α) d, (Draft.given z).outcome d = z >>= fun a => .ok (a, d) := by
    intro z d
    cases z <;> rfl
  rw [outcomes, outcomes]
  exact map_bind_congr h fun a b related => congrArg Except.ok (Prod.ext related same)

/-- A result that does not come from the draft. -/
theorem result (x : Except Error α) : Agrees id (Draft.given x) (Draft.given x) := given rfl

end Agrees

end Drafting

namespace Draft

open Drafting

theorem agrees_columnOf (key : Expr) : Agrees id (columnOf key) (columnOf key) := by
  rw [columnOf_eq]
  exact .result _

theorem agrees_projectionOf (e : Expr) : Agrees id (projectionOf e) (projectionOf e) := by
  rw [projectionOf_eq]
  exact .result _

theorem outcome_onOffshoot (table : String) (operation : Operation) (step : Drafting Unit) (d : Draft) :
    (onOffshoot table operation step).outcome d =
      step.outcome (d.offshoot table operation) >>= fun p => .ok (p.2, d) := by
  have looked : (get : Drafting Draft).run d = (.ok d, d) := rfl
  rcases run : step.run (d.offshoot table operation) with ⟨e | ⟨⟩, sub⟩
  · simp only [outcome, onOffshoot, run_bind, looked, run]
    rfl
  · simp only [outcome, onOffshoot, run_bind, looked, run]
    rfl

/-- What is drafted on the side has one outline, too. -/
theorem agrees_onOffshoot {table : String} {operation : Operation} {x y : Drafting Unit} (h : Agrees id x y) :
    Agrees outline (onOffshoot table operation x) (onOffshoot table operation y) := by
  intro d d' same
  rw [outcome_onOffshoot, outcome_onOffshoot]
  refine map_bind_congr (h _ _ (same.offshoot table operation)) fun p q related => ?_
  exact congrArg Except.ok (Prod.ext (Prod.ext_iff.mp related).2 same)

theorem agrees_adopt {sub sub' : Draft} (h : sub.outline = sub'.outline) : Agrees id (adopt sub) (adopt sub') := by
  have sub_same : SameOutline sub sub' := h
  refine .get fun d d' same => ?_
  rw [sub_same.parameters, sub_same.counter, same.parameters, same.counter]
  split
  · rfl
  · let taken (d : Draft) : Draft :=
      { d with
        parameters := d'.parameters.extend sub'.parameters
        counter := max d'.counter sub'.counter }
    exact congrArg Except.ok (Prod.ext rfl (same.change (f := taken) fun _ => rfl))

theorem inQuery_eq (column : Column) (negated : Bool) (query : Draft) :
    inQuery column negated query = (do
      let sql ← given query.command
      adopt query
      modify (push (.inQuery column negated sql))) := by
  unfold inQuery
  cases query.command <;> rfl

theorem agrees_keyInQuery (key : Expr) (negated : Bool) {sub sub' : Draft} (h : sub.outline = sub'.outline) :
    Agrees id (keyInQuery key negated sub) (keyInQuery key negated sub') := by
  refine Agrees.chain (agrees_columnOf key) fun c => ?_
  rw [inQuery_eq, inQuery_eq]
  refine .bind (.given (SameOutline.command h)) fun sql sql' _ => ?_
  exact .bind (agrees_adopt h) fun _ _ _ => .modify fun d d' same => same.push rfl

theorem agrees_emit (emission : Emission) : Agrees id (emit emission) (emit emission) := by
  refine .chain (.modify fun d d' same => same.pushAll emission.fragments) fun _ => ?_
  split
  · exact .throw _ _
  · exact .pure rfl

theorem agrees_predicate (e : Expr) : Agrees id (predicate e) (predicate e) := by
  rw [predicate_eq]
  refine Agrees.chain (.result _) fun term => ?_
  exact agrees_emit term.emit

theorem agrees_conjoined : Agrees id (modify conjoined : Drafting Unit) (modify conjoined) :=
  .modify fun _ _ same => same.joinedBy .conjunction

theorem agrees_disjoined : Agrees id (modify disjoined : Drafting Unit) (modify disjoined) :=
  .modify fun _ _ same => same.joinedBy .disjunction

theorem agrees_keyIn (key : Expr) (negated : Bool) (members : List Value) :
    Agrees id (keyIn key negated members) (keyIn key negated members) := by
  refine Agrees.chain (agrees_columnOf key) fun c => ?_
  exact .modify fun d d' same => same.push rfl

theorem agrees_keyBetween (key : Expr) (negated : Bool) (low high : Value) :
    Agrees id (keyBetween key negated low high) (keyBetween key negated low high) := by
  refine Agrees.chain (agrees_columnOf key) fun c => ?_
  exact .modify fun d d' same => same.push rfl

/-- The condition of a join is finished text: the two dialects need not spell it alike. -/
theorem agrees_joinOn (kind : JoinKind) (table : String) (on : Expr) :
    Agrees id (joinOn kind table on) (joinOn kind table on) := by
  refine .bind (agrees_onOffshoot (agrees_predicate on)) fun sub sub' drafted => ?_
  refine .bind (agrees_adopt drafted) fun _ _ _ => .modify fun d d' same => ?_
  have follows : ∀ (sql : Sql) (d : Draft),
      outline { d with tables := d.tables ++ [table], joins := d.joins ++ [⟨kind, table, sql⟩] } =
        { d.outline with tables := d.tables ++ [table], joins := d.outline.joins ++ [⟨kind, table, .empty⟩] } := by
    intro sql d
    simp [outline, Join.outline]
  rw [SameOutline, follows, follows, show d.outline = d'.outline from same,
    same.field Draft.tables fun _ => rfl]

theorem agrees_renderArgument (e : Expr) : Agrees (fun _ => ()) (renderArgument e) (renderArgument e) := by
  refine .get fun d d' same => ?_
  rw [same.field Draft.table fun _ => rfl]
  refine Agrees.bind (agrees_onOffshoot (agrees_predicate e)) (fun part part' drafted => ?_) d d' same
  exact .bind (agrees_adopt drafted) fun _ _ _ => .pure rfl

theorem agrees_renderArguments (arguments : List Expr) :
    Agrees (fun _ => ()) (renderArguments arguments) (renderArguments arguments) := by
  induction arguments with
  | nil => exact .pure rfl
  | cons e rest ih => exact .bind (agrees_renderArgument e) fun _ _ _ => .bind ih fun _ _ _ => .pure rfl

theorem agrees_templated (template : String) (arguments : List Expr) :
    Agrees id (templated template arguments) (templated template arguments) := by
  unfold templated
  dsimp only
  split
  · exact .throw _ _
  · exact .bind (agrees_renderArguments arguments) fun _ _ _ => .modify fun d d' same => same.push rfl

theorem agrees_having (function : String) (key : Expr) (op : Operator) (value : Value) :
    Agrees id (having function key op value) (having function key op value) := by
  unfold having
  split
  · exact .throw _ _
  · refine Agrees.chain (agrees_columnOf key) fun c => ?_
    exact .modify fun d d' same => same.addGroupTest function c op value

theorem agrees_assignValue (entity : Entity) (member : String) (e : Expr) :
    Agrees id (assignValue entity member e) (assignValue entity member e) := by
  refine Agrees.chain (.result _) fun value => ?_
  exact .modify fun d d' same => same.assign _ value

theorem agrees_assignMethod (receiver : Expr) (method : String) (arguments : List Expr) :
    Agrees id (assignMethod receiver method arguments) (assignMethod receiver method arguments) := by
  refine Agrees.chain (agrees_columnOf receiver) fun c => ?_
  split
  · refine Agrees.chain (.result _) fun values => ?_
    split
    · exact .modify fun d d' same => same.assignReplaced _ _ _
    · exact .throw _ _
  · exact .throw _ _

theorem agrees_assignEntries (entity : Entity) (entries : List (String × Expr)) :
    Agrees id (assignEntries entity entries) (assignEntries entity entries) := by
  induction entries with
  | nil => exact .pure rfl
  | cons entry rest ih =>
    obtain ⟨member, e⟩ := entry
    refine .chain ?_ fun _ => ih
    unfold assignEntry
    split
    · split
      · exact agrees_assignMethod _ _ _
      · exact agrees_assignValue _ _ _
    · exact agrees_assignValue _ _ _

theorem agrees_update (entity : Entity) (assignments : Expr) :
    Agrees id (update entity assignments) (update entity assignments) := by
  unfold update
  split
  · exact agrees_assignEntries entity _
  · exact .throw _ _

/-- Rows are compared by their columns, and columns are not spelled. -/
theorem agrees_insertRow (row : List (String × Value)) : Agrees id (insertRow row) (insertRow row) := by
  refine .get fun d d' same => ?_
  have heads : (d.rows.head?.any fun first => first.map Prod.fst ≠ row.map Prod.fst) =
      d'.rows.head?.any fun first => first.map Prod.fst ≠ row.map Prod.fst := by
    refine same.field (fun d => d.rows.head?.any fun first => first.map Prod.fst ≠ row.map Prod.fst) fun d => ?_
    cases rows : d.rows with
    | nil => simp [outline, rows]
    | cons first rest => simp [outline, rows, Row.outline, Function.comp_def]
  simp only [bindAll_eq, List.length_map]
  rw [heads]
  split
  · rfl
  · split
    · rfl
    · exact congrArg Except.ok (Prod.ext rfl (same.addRow row))

theorem agrees_insert (entity : Entity) (record : Expr) : Agrees id (insert entity record) (insert entity record) := by
  unfold insert
  split
  · exact .chain (.result _) fun row => agrees_insertRow row
  · exact .throw _ _

theorem agrees_insertValue (entity : Entity) (value : Value) :
    Agrees id (insertValue entity value) (insertValue entity value) := by
  unfold insertValue
  split
  · exact agrees_insertRow _
  · exact .throw _ _

theorem agrees_select (e : Expr) : Agrees id (select e) (select e) := by
  refine Agrees.chain (agrees_projectionOf e) fun entries => ?_
  refine .modify fun d d' same => ?_
  simp only [foldl_addSelected]
  exact same.change (f := fun d => { d with selection := d.selection ++ entries.map Projected.selected })
    fun _ => rfl

theorem agrees_selectFunctionOf (function : String) (entries : List Projected) :
    Agrees id (selectFunctionOf function entries) (selectFunctionOf function entries) := by
  induction entries with
  | nil => exact .pure rfl
  | cons entry rest ih =>
    cases entry with
    | table t => exact .throw _ _
    | column c label =>
      exact .chain (.modify fun d d' same => same.change fun _ => rfl) fun _ => ih

theorem agrees_selectFunction (function : String) (e : Expr) :
    Agrees id (selectFunction function e) (selectFunction function e) := by
  exact .chain (agrees_projectionOf e) fun entries => agrees_selectFunctionOf function entries

end Draft

/-! ## Programs -/

namespace Step

open Draft Drafting

mutual

/-- A step does the same whatever the dialect. -/
theorem agrees_run (entity : Entity) : ∀ s : Step, Agrees id (run entity s) (run entity s)
  | .filter e => .chain agrees_conjoined fun _ => agrees_predicate e
  | .orFilter e => .chain agrees_disjoined fun _ => agrees_predicate e
  | .filterTemplate template arguments => .chain agrees_conjoined fun _ => agrees_templated template arguments
  | .filterIn key negated members => .chain agrees_conjoined fun _ => agrees_keyIn key negated members
  | .filterInQuery key negated other program =>
    -- the texts of the two sub-queries differ, and their outlines do not
    .chain agrees_conjoined fun _ =>
      .bind (agrees_onOffshoot (agrees_runAll other program)) fun _ _ drafted =>
        agrees_keyInQuery key negated drafted
  | .filterBetween key negated low high =>
    .chain agrees_conjoined fun _ => agrees_keyBetween key negated low high
  | .orFilterBetween key low high => .chain agrees_disjoined fun _ => agrees_keyBetween key false low high
  | .select e => agrees_select e
  | .selectCount key =>
    .chain (.modify fun _ _ same => same.change (f := (withOperation · .count)) fun _ => rfl) fun _ =>
      agrees_selectFunction "COUNT" key
  | .selectFunction function e => agrees_selectFunction function e
  | .orderBy key descending => by
    refine Agrees.chain (agrees_columnOf key) fun c => ?_
    exact .modify fun d d' same => same.change fun _ => rfl
  | .groupBy key => by
    refine Agrees.chain (agrees_columnOf key) fun c => ?_
    exact .modify fun d d' same => same.change fun _ => rfl
  | .having function key op v => agrees_having function key op v
  | .take size => .modify fun _ _ same => same.change fun _ => rfl
  | .skip offset => .modify fun _ _ same => same.change fun _ => rfl
  | .page index size => .modify fun _ _ same => same.change fun _ => rfl
  | .join kind other on => agrees_joinOn kind other.table on
  | .values e => agrees_insert entity e
  | .value (.ok document) => agrees_insertValue entity (Value.ofJson document)
  | .value (.error reason) => .throw _ _
  | .output e => by
    refine Agrees.chain (.result _) fun columns => ?_
    exact .modify fun d d' same => same.change fun _ => rfl
  | .insertInto target e => by
    refine Agrees.chain (agrees_projectionOf e) fun projection => ?_
    exact .modify fun d d' same => same.change fun _ => rfl
  | .set e => agrees_update entity e
  | .reject error => .throw _ _

theorem agrees_runAll (entity : Entity) : ∀ program : List Step,
    Agrees id (runAll entity program) (runAll entity program)
  | [] => .pure rfl
  | s :: rest => .bind (agrees_run entity s) fun _ _ _ => agrees_runAll entity rest

end

end Step

namespace Query

/-- What a query comes to, its wording apart. -/
structure Substance where
  parameters : Parameters
  counter : Nat
  clauseSizes : List Nat
  /-- Whether it has a text, and if not, why. -/
  worded : Except Error Unit

def substance (q : Query) : Substance :=
  { parameters := q.draft.parameters
    counter := q.draft.counter
    clauseSizes := q.draft.clauseSizes
    worded := q.draft.commandText.map fun _ => () }

theorem substance_eq_of_sameOutline {q q' : Query} (h : q.draft.SameOutline q'.draft) :
    q.substance = q'.substance := by
  have worded : ∀ d : Draft, d.commandText.map (fun _ => ()) = d.command.map (fun _ => ()) := by
    intro d
    unfold Draft.commandText
    cases d.command <;> rfl
  simp only [substance, worded, h.command, h.parameters, h.counter,
    h.field Draft.clauseSizes Draft.clauseSizes_outline]

/-- Whatever the program, two dialects refuse it for the same reason, or give queries with
    the same parameters, counter and numbers of entries that have a text together. -/
theorem substance_same_in_every_dialect (dialect dialect' : Dialect) (stem : String) (entity : Entity)
    (operation : Operation) (index : Nat) (program : List Step) :
    let outcome (dialect : Dialect) : Except Error Query := do
      (← Query.start ⟨some dialect, stem⟩ entity operation index).run program
    (outcome dialect).map substance = (outcome dialect').map substance := by
  intro outcome
  refine map_bind_congr (v := fun q => (q.entity, q.draft.outline)) rfl fun q q' begun => ?_
  obtain ⟨same_entity, same_draft⟩ := Prod.ext_iff.mp begun
  rw [run_eq_outcome, run_eq_outcome, show q.entity = q'.entity from same_entity]
  refine map_bind_congr (Step.agrees_runAll q'.entity program q.draft q'.draft same_draft) fun p p' drafted => ?_
  exact congrArg Except.ok (substance_eq_of_sameOutline (Prod.ext_iff.mp drafted).2)

end Query

end Querycraft
