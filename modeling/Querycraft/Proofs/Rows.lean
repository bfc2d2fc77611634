/-
  Querycraft.Proofs.Rows — the rows of an INSERT.

  Rows come one at a time, from records and from captured objects, with other steps in
  between. The statement takes its columns from the first row and a tuple from every row,
  so a row with other columns would put values under the wrong ones, and a rejected row
  that used up a placeholder would move those behind it. `Step.offered?` is the row that a
  step offers. `Draft.afterAll` runs steps on one draft, each on what the step before it
  has left, rejected or not; `Draft.acceptedRows` lists the rows of the steps that were not.
  Proved:
  (1) an object is inserted like the record of its members, with the same result and the
      same draft left behind, exactly if the entity names one column for each member
      (`objects_insert_as_records`);
  (2) a step that is accepted adds the row that it offers, under the next placeholders
      (`Step.run_receives`); one that is rejected has at most bound values
      (`Step.run_keepsRows`), and a rejected row not even that (`Step.intact_of_insertsRow`);
  (3) either way the rows stay right, and what was shown for each placeholder stays the same
      (`Tabulates.step`), so this holds of every run (`Tabulates.run`);
  (4) the text of an INSERT has a tuple for each accepted row, as long as the list of
      columns and with the values in their places (`insert_rows_stay_rectangular`).
-/

import Mathlib.Data.List.Forall2
import Querycraft.Proofs.Conditions
import Querycraft.Proofs.Failures

namespace Querycraft

/-! ## (1) Objects and records -/

namespace Entity

/-- The members of an object that the entity takes: the mapped ones in the entity's order,
    or all of them in the object's if it maps none. -/
def taken (entity : Entity) (members : List (String × Json)) : List (String × Value) :=
  if entity.columns.isEmpty then members.map fun (name, value) => (name, Value.ofJson value)
  else entity.columns.filterMap fun (member, _) =>
    (members.lookup member).map fun value => (member, Value.ofJson value)

def recordOf (entity : Entity) (members : List (String × Json)) : Expr :=
  .record ((entity.taken members).map fun (member, value) => (member, .constant value))

/-- All pairs for a member name the same column. -/
def NamesOnce (entity : Entity) : Prop :=
  ∀ pair ∈ entity.columns, entity.columnName pair.1 = pair.2

theorem namesOnce_of_nodup {entity : Entity} (distinct : (entity.columns.map Prod.fst).Nodup) :
    entity.NamesOnce := by
  intro pair member
  obtain ⟨before, behind, split⟩ := List.append_of_mem member
  have new : ∀ other ∈ before, pair.1 ≠ other.1 := by
    intro other earlier same
    rw [split, List.map_append, List.nodup_append] at distinct
    exact distinct.2.2 other.1 (List.mem_map_of_mem earlier) pair.1 (by simp) same.symm
  have found : entity.columns.lookup pair.1 = some pair.2 := by
    refine List.lookup_eq_some_iff.mpr ⟨before, behind, split, ?_⟩
    intro other earlier
    simpa using new other earlier
  rw [columnName, found, Option.getD_some]

end Entity

namespace Draft

open Drafting

/-- A record of constants gives its values under the columns of its members. -/
theorem rowOfEntries_constants (entity : Entity) (given : List (String × Value)) :
    rowOfEntries entity (given.map fun (member, value) => (member, .constant value)) =
      .ok (given.map fun (member, value) => (entity.columnName member, value)) := by
  induction given with
  | nil => rfl
  | cons cell rest ih =>
    simp only [List.map_cons, rowOfEntries, Expr.evaluate, ih]
    rfl

theorem insert_recordOf (entity : Entity) (members : List (String × Json)) :
    insert entity (entity.recordOf members) =
      insertRow ((entity.taken members).map fun (member, value) => (entity.columnName member, value)) := by
  unfold Entity.recordOf insert
  simp only [rowOfEntries_constants]
  rfl

theorem rowOfMembers_eq {entity : Entity} (h : entity.NamesOnce) (members : List (String × Json)) :
    rowOfMembers entity members =
      (entity.taken members).map fun (member, value) => (entity.columnName member, value) := by
  unfold rowOfMembers Entity.taken
  by_cases none : entity.columns.isEmpty = true
  · have own (name : String) : entity.columnName name = name := by
      rw [Entity.columnName, List.isEmpty_iff.mp none]
      rfl
    simp [none, own]
  · rw [if_neg none, if_neg none, List.map_filterMap]
    refine List.filterMap_congr fun pair member => ?_
    rw [Option.map_map]
    refine congrArg (Option.map · (members.lookup pair.1)) (funext fun value => ?_)
    exact congrArg (·, Value.ofJson value) (h pair member).symm

/-- Rows that are accepted alike have the same columns. -/
theorem columns_of_insertRow {row other : List (String × Value)} {d : Draft} (first : d.rows = []) (filled : row ≠ [])
    (same : (insertRow row).run d = (insertRow other).run d) : row.map Prod.fst = other.map Prod.fst := by
  let d' := { d.bindValues (row.map Prod.snd) with rows := d.rows ++ [(row.map Prod.fst).zip (d.upcoming row.length)] }
  have accepted : Gives (insertRow row) d () d' := by
    refine gives_insertRow.mpr ⟨?_, ?_, rfl⟩
    · simpa using filled
    · simp [first]
  have alike : Gives (insertRow other) d () d' := same.symm.trans accepted
  obtain ⟨-, -, result⟩ := gives_insertRow.mp alike
  have rows := congrArg (fun d : Draft => d.rows.map (·.map Prod.fst)) result
  simpa [d', first, upcoming, List.map_fst_zip] using rows.symm

/-- Of an object with one member, the entity takes what its pairs for that member say. -/
theorem filterMap_single {α : Type} (columns : List (String × String)) (name : String)
    (f : String × String → Json → α) :
    columns.filterMap (fun pair => (List.lookup pair.1 [(name, Json.null)]).map (f pair)) =
      (columns.filter (·.1 == name)).map (f · .null) := by
  induction columns with
  | nil => rfl
  | cons pair rest ih =>
    rw [List.filterMap_cons, ih, List.lookup_cons, List.lookup_nil]
    by_cases same : pair.1 == name
    · simp [same]
    · simp [same]

/-- An object with one member, which a pair maps, tells the pair's column. -/
theorem namesOnce_of_agreement {entity : Entity}
    (agree : ∀ members d, (insertValue entity (.json (.object members))).run d =
      (insert entity (entity.recordOf members)).run d) : entity.NamesOnce := by
  intro pair member
  have some : ¬ entity.columns.isEmpty = true := by
    simpa using List.ne_nil_of_mem member
  let chosen := entity.columns.filter (·.1 == pair.1)
  have mapped : pair ∈ chosen := List.mem_filter.mpr ⟨member, by simp⟩
  have object : rowOfMembers entity [(pair.1, .null)] = chosen.map fun pair => (pair.2, .null) := by
    rw [rowOfMembers, if_neg some]
    exact filterMap_single entity.columns pair.1 fun pair value => (pair.2, Value.ofJson value)
  have record : entity.taken [(pair.1, .null)] = chosen.map fun pair => (pair.1, .null) := by
    rw [Entity.taken, if_neg some]
    exact filterMap_single entity.columns pair.1 fun pair value => (pair.1, Value.ofJson value)
  have same := agree [(pair.1, .null)] (onTable .sqlite "")
  rw [insert_recordOf, record] at same
  have filled : rowOfMembers entity [(pair.1, .null)] ≠ [] := by
    simpa [object] using List.ne_nil_of_mem mapped
  have columns := columns_of_insertRow rfl filled same
  rw [object, List.map_map, List.map_map, List.map_map] at columns
  exact (List.map_inj_left.mp columns pair mapped).symm

/-- (1) If no member is mapped twice, an object is inserted like the record of its members:
    the result is the same, and the draft that is left. This is so for all objects and drafts
    exactly if the entity names one column for each member. -/
theorem objects_insert_as_records (entity : Entity) :
    ((entity.columns.map Prod.fst).Nodup → ∀ members d,
      (insertValue entity (.json (.object members))).run d = (insert entity (entity.recordOf members)).run d) ∧
    ((∀ members d,
      (insertValue entity (.json (.object members))).run d = (insert entity (entity.recordOf members)).run d) ↔
      entity.NamesOnce) := by
  have agree (once : entity.NamesOnce) (members : List (String × Json)) (d : Draft) :
      (insertValue entity (.json (.object members))).run d = (insert entity (entity.recordOf members)).run d := by
    rw [insert_recordOf, ← rowOfMembers_eq once]
    rfl
  refine ⟨?_, ?_, ?_⟩
  · intro distinct
    exact agree (Entity.namesOnce_of_nodup distinct)
  · exact namesOnce_of_agreement
  · exact agree

/-- An object that lacks a mapped member and has one that is not mapped, inserted behind a
    row that was accepted; and two columns for one member, which the record gives to the first. -/
theorem objects_insert_as_records_partial :
    let users : Entity := ⟨"User", "Users", [("email", "Email"), ("name", "Name"), ("id", "Id")]⟩
    let twice : Entity := ⟨"User", "Users", [("email", "Email"), ("email", "Contact")]⟩
    let members : List (String × Json) := [("age", .number (.integer 7)), ("id", .null), ("name", .string "bob")]
    let d := ((onTable .mysql "Users").withOperation .insert).after (insertRow [("Name", .text "ann"), ("Id", .int 1)])
    (users.columns.map Prod.fst).Nodup ∧
      (insertValue users (.json (.object members))).run d =
        (insert users (.record [("name", .constant (.text "bob")), ("id", .constant .null)])).run d ∧
      ((insertValue users (.json (.object members))).run d).2.commandText =
        .ok "INSERT INTO Users (Name, Id) VALUES (@Param1, @Param2), (@Param3, @Param4)" ∧
      ¬ ∀ members d, (insertValue twice (.json (.object members))).run d =
        (insert twice (twice.recordOf members)).run d := by
  intro users twice members d
  have distinct : (users.columns.map Prod.fst).Nodup := by decide
  have text : ((insertValue users (.json (.object members))).run d).2.commandText.toOption =
      some "INSERT INTO Users (Name, Id) VALUES (@Param1, @Param2), (@Param3, @Param4)" := by decide +kernel
  refine ⟨distinct, (objects_insert_as_records users).1 distinct members d, eq_ok_of_toOption text, ?_⟩
  intro agree
  have same := (objects_insert_as_records twice).2.mp agree ("email", "Contact") (by simp [twice])
  exact absurd same (by decide)

end Draft

/-! ## (2) What a step adds -/

namespace Step

def offered? (entity : Entity) : Step → Option (List (String × Value))
  | .values (.record entries) => (Draft.rowOfEntries entity entries).toOption
  | .value (.ok (.object members)) => some (Draft.rowOfMembers entity members)
  | _ => none

end Step

namespace Draft

open Drafting

def placed (d : Draft) (row : List (String × Value)) : Row := (row.map Prod.fst).zip (d.upcoming row.length)

/-- A draft with the offered row behind the rows of the earlier one. The row has columns, and
    those of the first row. -/
structure Receives (offered : Option (List (String × Value))) (d d' : Draft) : Prop where
  rows : d'.rows = d.rows ++ offered.toList.map d.placed
  filled : ∀ row ∈ offered, row ≠ []
  alike : ∀ row ∈ offered, ∀ first ∈ d.rows.head?, first.map Prod.fst = row.map Prod.fst

theorem receives_nothing {d d' : Draft} (h : d'.rows = d.rows) : Receives none d d' :=
  ⟨by simp [h], by simp, by simp⟩

theorem receives_insertRow {row : List (String × Value)} {d d' : Draft} (h : Gives (insertRow row) d () d') :
    Receives (some row) d d' := by
  obtain ⟨filled, alike, rfl⟩ := gives_insertRow.mp h
  refine ⟨rfl, ?_, ?_⟩
  · intro other same
    obtain rfl := Option.some.inj same
    simpa using filled
  · intro other same first found
    obtain rfl := Option.some.inj same
    rw [Option.mem_def.mp found] at alike
    simpa using alike

theorem Writes.rows_eq {values : List Value} {d d' : Draft} (h : Writes values d d') : d'.rows = d.rows := by
  obtain ⟨new, rfl, -, -⟩ := h
  rfl

theorem rows_push (d : Draft) (fragment : Fragment Value) : (d.push fragment).rows = d.rows := by
  rw [push_eq]
  rfl

/-- Taking over what was drafted on the side adds no row. -/
theorem rows_of_adopt {sub d d' : Draft} (h : Gives (adopt sub) d () d') : d'.rows = d.rows := by
  simp only [adopt, gives_bind, gives_get] at h
  obtain ⟨_, _, ⟨rfl, rfl⟩, rest⟩ := h
  split at rest
  · exact absurd rest gives_throw
  · rw [gives_set] at rest
    rw [← rest]

end Draft

namespace Step

open Drafting Draft

/-- (2) A step that succeeds adds the row that it offers, and leaves the rows alone if it
    offers none. -/
theorem run_receives (entity : Entity) (s : Step) {d d' : Draft} (h : Gives (run entity s) d () d') :
    Receives (s.offered? entity) d d' := by
  cases s with
  | filter e =>
    have second := gives_modify_then.mp h
    exact receives_nothing ((writes_conjoined d).trans (writes_predicate second)).rows_eq
  | orFilter e =>
    have second := gives_modify_then.mp h
    exact receives_nothing ((writes_disjoined d).trans (writes_predicate second)).rows_eq
  | filterTemplate template arguments =>
    obtain ⟨-, rendered, d₁, written, rfl⟩ := gives_templated.mp (gives_modify_then.mp h)
    refine receives_nothing ?_
    rw [rows_push, (adds_renderArguments written).1]
    exact (writes_conjoined d).rows_eq
  | filterIn key negated members =>
    have second := gives_modify_then.mp h
    exact receives_nothing ((writes_conjoined d).trans (writes_keyIn second)).rows_eq
  | filterInQuery key negated other program =>
    simp only [run, gives_bind, gives_modify, exists_unit, gives_onOffshoot] at h
    obtain ⟨_, rfl, sub, _, ⟨-, rfl⟩, second⟩ := h
    obtain ⟨c, sql, d₁, -, -, adopted, rfl⟩ := gives_keyInQuery.mp second
    refine receives_nothing ?_
    rw [rows_push, rows_of_adopt adopted]
    exact (writes_conjoined d).rows_eq
  | filterBetween key negated low high =>
    have second := gives_modify_then.mp h
    exact receives_nothing ((writes_conjoined d).trans (writes_keyBetween second)).rows_eq
  | orFilterBetween key low high =>
    have second := gives_modify_then.mp h
    exact receives_nothing ((writes_disjoined d).trans (writes_keyBetween second)).rows_eq
  | select e =>
    obtain ⟨entries, -, rfl⟩ := gives_select.mp h
    rw [foldl_addSelected]
    exact receives_nothing rfl
  | selectCount key =>
    obtain ⟨added, rfl⟩ := gives_selectFunction (gives_modify_then.mp h)
    exact receives_nothing rfl
  | selectFunction function e =>
    obtain ⟨added, rfl⟩ := gives_selectFunction h
    exact receives_nothing rfl
  | orderBy key descending =>
    obtain ⟨c, -, rfl⟩ := gives_orderBy.mp h
    exact receives_nothing rfl
  | groupBy key =>
    obtain ⟨c, -, rfl⟩ := gives_groupBy.mp h
    exact receives_nothing rfl
  | having function key op v =>
    obtain ⟨-, c, -, rfl⟩ := gives_having.mp h
    exact receives_nothing rfl
  | take _ | skip _ | page _ _ =>
    obtain rfl := gives_modify.mp h
    exact receives_nothing rfl
  | join kind other on =>
    obtain ⟨sub, d₁, -, adopted, rfl⟩ := gives_joinOn.mp h
    have kept : d₁.rows = d.rows := rows_of_adopt adopted
    exact receives_nothing kept
  | values e =>
    cases e with
    | record entries =>
      obtain ⟨row, evaluated, inserted⟩ := gives_insert.mp h
      rw [offered?, evaluated]
      exact receives_insertRow inserted
    | _ => exact absurd h gives_throw
  | value captured =>
    cases captured with
    | error reason => exact absurd h gives_throw
    | ok document =>
      by_cases object : ∃ members, document = .object members
      · obtain ⟨members, rfl⟩ := object
        exact receives_insertRow h
      · obtain ⟨e, fails⟩ := insertValue_of_no_object entity fun members same => object ⟨members, same⟩
        rw [run, fails] at h
        exact absurd h gives_throw
  | output e =>
    simp only [run, gives_bind, gives_given, gives_modify] at h
    obtain ⟨columns, _, ⟨-, rfl⟩, rfl⟩ := h
    exact receives_nothing rfl
  | insertInto target e =>
    simp only [run, gives_bind, gives_projectionOf, gives_modify] at h
    obtain ⟨columns, _, ⟨-, rfl⟩, rfl⟩ := h
    exact receives_nothing rfl
  | set e =>
    cases e with
    | record entries =>
      obtain ⟨new, rfl, -⟩ := assigns_assignEntries h
      exact receives_nothing rfl
    | _ => exact absurd h gives_throw
  | reject error => exact absurd h gives_throw

/-- The values that a step carries are those of the row it offers. -/
theorem carried_of_offered {entity : Entity} {s : Step} {row : List (String × Value)}
    (h : s.offered? entity = some row) : carried entity s = row.map Prod.snd := by
  unfold offered? at h
  split at h
  · have evaluated := eq_ok_of_toOption h
    rw [values_rowOfEntries evaluated]
    rfl
  · obtain rfl := Option.some.inj h
    rfl
  · cases h

end Step

namespace Draft

open Drafting

/-- A draft that has the rows of the earlier one, and has at most bound more values. -/
structure KeepsRows (d d' : Draft) : Prop where
  binds : ∃ values, Binds values d d'
  rows : d'.rows = d.rows

theorem KeepsRows.refl (d : Draft) : KeepsRows d d := ⟨⟨[], .refl d⟩, rfl⟩

theorem KeepsRows.trans {d d' d'' : Draft} (h : KeepsRows d d') (h' : KeepsRows d' d'') : KeepsRows d d'' := by
  obtain ⟨⟨values, first⟩, rows⟩ := h
  obtain ⟨⟨more, second⟩, rows'⟩ := h'
  exact ⟨⟨values ++ more, first.trans second⟩, rows'.trans rows⟩

theorem keepsRows_bindValues (d : Draft) (values : List Value) : KeepsRows d (d.bindValues values) :=
  ⟨⟨values, binds_bindValues d values⟩, rfl⟩

theorem Writes.keepsRows {values : List Value} {d d' : Draft} (h : Writes values d d') : KeepsRows d d' :=
  ⟨⟨values, h.adds.toBinds⟩, h.rows_eq⟩

theorem Assigns.keepsRows {values : List Value} {d d' : Draft} (h : Assigns values d d') : KeepsRows d d' := by
  obtain ⟨new, rfl, -⟩ := h
  exact ⟨⟨values, rfl, rfl, rfl, rfl, rfl⟩, rfl⟩

theorem keepsRows_pushAll (d : Draft) (fragments : List (Fragment Value)) : KeepsRows d (d.pushAll fragments) := by
  rw [pushAll_eq]
  exact ⟨⟨_, rfl, rfl, rfl, rfl, rfl⟩, rfl⟩

theorem keepsRows_of_intact {step : Drafting Unit} (h : Intact step) {e : Error} {d d' : Draft}
    (failed : Fails step d e d') : KeepsRows d d' := by
  obtain rfl := h d e d' failed
  exact .refl _

end Draft

namespace Step

open Drafting Draft

/-- A step that fails leaves the rows alone, whatever else it leaves behind. -/
theorem run_keepsRows (entity : Entity) (s : Step) {e : Error} {d d' : Draft} (h : Fails (run entity s) d e d') :
    KeepsRows d d' := by
  have conjoined := (writes_conjoined d).keepsRows
  have disjoined := (writes_disjoined d).keepsRows
  cases s with
  | filter predicate =>
    obtain ⟨fragments, rfl⟩ := pushAll_of_fails_predicate (fails_modify_then h)
    exact conjoined.trans (keepsRows_pushAll _ fragments)
  | orFilter predicate =>
    obtain ⟨fragments, rfl⟩ := pushAll_of_fails_predicate (fails_modify_then h)
    exact disjoined.trans (keepsRows_pushAll _ fragments)
  | filterTemplate template arguments =>
    obtain ⟨values, rfl⟩ := bindValues_of_fails_templated (fails_modify_then h)
    exact conjoined.trans (keepsRows_bindValues _ values)
  | filterIn key negated members =>
    exact conjoined.trans (keepsRows_of_intact ((reads_columnOf key).intact.then_modify _) (fails_modify_then h))
  | filterInQuery key negated other program =>
    have intact (sub : Draft) : Intact (keyInQuery key negated sub) :=
      (reads_columnOf key).chain fun column => intact_inQuery column negated sub
    exact conjoined.trans (keepsRows_of_intact ((reads_onOffshoot _ _ _).chain intact) (fails_modify_then h))
  | filterBetween key negated low high =>
    exact conjoined.trans (keepsRows_of_intact ((reads_columnOf key).intact.then_modify _) (fails_modify_then h))
  | orFilterBetween key low high =>
    exact disjoined.trans (keepsRows_of_intact ((reads_columnOf key).intact.then_modify _) (fails_modify_then h))
  | select e => exact keepsRows_of_intact ((reads_projectionOf e).intact.then_modify _) h
  | selectCount key =>
    have counting : KeepsRows d (d.withOperation .count) := ⟨⟨[], rfl, rfl, rfl, rfl, rfl⟩, rfl⟩
    exact counting.trans (keepsRows_of_intact (intact_selectFunction "COUNT" key) (fails_modify_then h))
  | selectFunction function e => exact keepsRows_of_intact (intact_selectFunction function e) h
  | orderBy key descending => exact keepsRows_of_intact ((reads_columnOf key).intact.then_modify _) h
  | groupBy key => exact keepsRows_of_intact ((reads_columnOf key).intact.then_modify _) h
  | having function key op v => exact keepsRows_of_intact (intact_having function key op v) h
  | take _ | skip _ | page _ _ => exact absurd h not_fails_modify
  | join kind other on =>
    exact keepsRows_of_intact ((reads_onOffshoot _ _ _).chain (intact_join kind other.table)) h
  | values record => exact keepsRows_of_intact (intact_insert entity record) h
  | value captured =>
    cases captured with
    | ok document => exact keepsRows_of_intact (intact_insertValue entity (Value.ofJson document)) h
    | error reason => exact keepsRows_of_intact (reads_throw _).intact h
  | output e => exact keepsRows_of_intact ((reads_given _).intact.then_modify _) h
  | insertInto target e => exact keepsRows_of_intact ((reads_projectionOf e).intact.then_modify _) h
  | set e =>
    obtain ⟨values, assigns⟩ := assigns_of_fails_update h
    exact assigns.keepsRows
  | reject error => exact keepsRows_of_intact (reads_throw _).intact h

def insertsRow : Step → Bool
  | .values _ | .value _ => true
  | _ => false

/-- A row that is rejected leaves the draft as it was. -/
theorem intact_of_insertsRow (entity : Entity) {s : Step} (h : s.insertsRow = true) : Intact (run entity s) := by
  cases s with
  | values record => exact intact_insert entity record
  | value captured =>
    cases captured with
    | ok document => exact intact_insertValue entity (Value.ofJson document)
    | error reason => exact (reads_throw _).intact
  | _ => cases h

def accepted (entity : Entity) (d : Draft) (s : Step) : Bool := ((run entity s).run d).1.isOk

theorem accepted_or_rejected (entity : Entity) (d : Draft) (s : Step) :
    (accepted entity d s = true ∧ Gives (run entity s) d () (d.after (run entity s))) ∨
      (accepted entity d s = false ∧ ∃ e, Fails (run entity s) d e (d.after (run entity s))) := by
  unfold accepted Gives Fails after
  rcases (run entity s).run d with ⟨result, d'⟩
  cases result with
  | ok _ => exact .inl ⟨rfl, rfl⟩
  | error e => exact .inr ⟨rfl, e, rfl⟩

end Step

/-! ## (3) Runs -/

namespace Draft

open Drafting

/-- The draft after the steps of a run. A step that is rejected is followed by the next one,
    on the draft that it left behind. -/
def afterAll (entity : Entity) (d : Draft) : List Step → Draft
  | [] => d
  | s :: rest => (d.after (s.run entity)).afterAll entity rest

def verdicts (entity : Entity) (d : Draft) : List Step → List Bool
  | [] => []
  | s :: rest => s.accepted entity d :: (d.after (s.run entity)).verdicts entity rest

def acceptedRows (entity : Entity) (d : Draft) (steps : List Step) : List (List (String × Value)) :=
  (steps.zip (d.verdicts entity steps)).flatMap fun (s, accepted) =>
    if accepted then (s.offered? entity).toList else []

theorem acceptedRows_cons (entity : Entity) (d : Draft) (s : Step) (rest : List Step) :
    d.acceptedRows entity (s :: rest) = (if s.accepted entity d then (s.offered? entity).toList else []) ++
      (d.after (s.run entity)).acceptedRows entity rest := List.flatMap_cons

/-- A cell has the column that was given, and its placeholder shows the value that was given. -/
def Holds (d : Draft) (cell : String × Placeholder) (given : String × Value) : Prop :=
  cell.1 = given.1 ∧ d.parameters.shown? d.dialect cell.2.text = some given.2

def header (rows : List (List (String × α))) : List String := (rows.head?.getD []).map Prod.fst

/-- Each row has columns, and those of the first row. -/
def Rectangular (rows : List (List (String × α))) : Prop :=
  ∀ row ∈ rows, row ≠ [] ∧ row.map Prod.fst = header rows

structure Tabulates (rows : List (List (String × Value))) (d : Draft) : Prop where
  numbered : ∃ held, d.Numbered d.base held
  rectangular : Rectangular rows
  cells : List.Forall₂ (List.Forall₂ d.Holds) d.rows rows

theorem header_eq (rows : List (List (String × α))) :
    header rows = (rows.map fun row => row.map Prod.fst).head?.getD [] := by
  cases rows <;> rfl

theorem rectangular_iff {rows : List (List (String × α))} :
    Rectangular rows ↔ ∀ columns ∈ rows.map fun row => row.map Prod.fst, columns ≠ [] ∧ columns = header rows := by
  simp [Rectangular]

theorem shown?_append {p : Parameters} {dialect : Dialect} {text : String} {v : Value}
    (h : p.shown? dialect text = some v) (more : List (String × Value)) :
    Parameters.shown? ⟨p.entries ++ more⟩ dialect text = some v := by
  unfold Parameters.shown? at h ⊢
  rw [List.zipIdx_append, List.findSome?_append, h, Option.some_or]

theorem Numbered.onward {held values : List Value} {d d' : Draft} (h : d.Numbered d.base held) (b : Binds values d d') :
    d'.Numbered d'.base (held ++ values) := by
  rw [b.base]
  exact h.binds b

/-- A placeholder shows the same value when more values are bound. -/
theorem Holds.binds {values : List Value} {d d' : Draft} (b : Binds values d d') {cell : String × Placeholder}
    {given : String × Value} (h : d.Holds cell given) : d'.Holds cell given := by
  refine ⟨h.1, ?_⟩
  obtain ⟨more, extended⟩ := d.parameters.extend_eq_append ⟨d.numberedEntries (d.counter + 1) values⟩
  have parameters : d'.parameters = ⟨d.parameters.entries ++ more⟩ := b.parameters.trans extended
  rw [parameters, b.dialect]
  exact shown?_append h.2 more

theorem cells_of_binds {values : List Value} {d d' : Draft} (b : Binds values d d')
    {cells : List Row} {rows : List (List (String × Value))}
    (h : List.Forall₂ (List.Forall₂ d.Holds) cells rows) : List.Forall₂ (List.Forall₂ d'.Holds) cells rows :=
  h.imp fun _ _ row => row.imp fun _ _ => Holds.binds b

theorem Tabulates.keepsRows {rows : List (List (String × Value))} {d d' : Draft} (h : d.Tabulates rows)
    (kept : KeepsRows d d') : d'.Tabulates rows := by
  obtain ⟨held, numbered⟩ := h.numbered
  obtain ⟨⟨values, bound⟩, same⟩ := kept
  refine ⟨⟨held ++ values, numbered.onward bound⟩, h.rectangular, ?_⟩
  rw [same]
  exact cells_of_binds bound h.cells

theorem forall₂_of_valued {shown : String → Option Value} {issue : Nat → Placeholder} {i : Nat}
    {row : List (String × Value)} (h : Fragment.Valued shown issue i (row.map Prod.snd)) :
    List.Forall₂ (fun cell given => cell.1 = given.1 ∧ shown cell.2.text = some given.2)
      ((row.map Prod.fst).zip ((List.range' i row.length).map issue)) row := by
  induction row generalizing i with
  | nil => exact .nil
  | cons given rest ih => exact .cons ⟨rfl, h.1⟩ (ih h.2)

/-- The placeholders of a row that was placed show its values. -/
theorem cells_placed {row : List (String × Value)} {held : List Value} {d d' : Draft}
    (numbered : d.Numbered d.base held) (b : Binds (row.map Prod.snd) d d') :
    List.Forall₂ d'.Holds (d.placed row) row := by
  have behind := (Fragment.valued_append.mp (valued_of_numbered (numbered.onward b))).2
  rw [show d'.base + 1 + held.length = d.counter + 1 by rw [b.base, numbered.counter]; omega, b.issued] at behind
  exact forall₂_of_valued behind

theorem rectangular_append {rows : List (List (String × Value))} {row : List (String × Value)} (h : Rectangular rows)
    (filled : row ≠ []) (alike : ∀ first ∈ rows.head?, first.map Prod.fst = row.map Prod.fst) :
    Rectangular (rows ++ [row]) := by
  cases rows with
  | nil =>
    intro other member
    obtain rfl := List.mem_singleton.mp member
    exact ⟨filled, rfl⟩
  | cons first rest =>
    intro other member
    rcases List.mem_append.mp member with old | new
    · exact h other old
    · obtain rfl := List.mem_singleton.mp new
      exact ⟨filled, (alike first rfl).symm⟩

theorem columns_of_cells {d : Draft} {cells : Row} {row : List (String × Value)} (h : List.Forall₂ d.Holds cells row) :
    cells.map Prod.fst = row.map Prod.fst := by
  induction h with
  | nil => rfl
  | cons cell rest ih => rw [List.map_cons, List.map_cons, cell.1, ih]

theorem Tabulates.columns {rows : List (List (String × Value))} {d : Draft} (h : d.Tabulates rows) :
    (d.rows.map fun row => row.map Prod.fst) = rows.map fun row => row.map Prod.fst := by
  have cells := h.cells
  generalize d.rows = stored at cells ⊢
  clear h
  induction cells with
  | nil => rfl
  | cons row rest ih => rw [List.map_cons, List.map_cons, columns_of_cells row, ih]

theorem head?_of_forall₂ {r : α → β → Prop} {as : List α} {bs : List β} (h : List.Forall₂ r as bs) {b : β}
    (first : b ∈ bs.head?) : ∃ a, a ∈ as.head? ∧ r a b := by
  cases h with
  | nil => cases first
  | cons related _ =>
    obtain rfl := Option.some.inj first
    exact ⟨_, rfl, related⟩

theorem Tabulates.receives {offered : Option (List (String × Value))} {rows : List (List (String × Value))}
    {values : List Value} {d d' : Draft} (h : d.Tabulates rows) (b : Binds values d d')
    (received : Receives offered d d') (carries : ∀ row ∈ offered, values = row.map Prod.snd) :
    d'.Tabulates (rows ++ offered.toList) := by
  cases offered with
  | none =>
    rw [Option.toList_none, List.append_nil]
    exact h.keepsRows ⟨⟨values, b⟩, by simpa using received.rows⟩
  | some row =>
    obtain rfl := carries row rfl
    obtain ⟨held, numbered⟩ := h.numbered
    refine ⟨⟨held ++ row.map Prod.snd, numbered.onward b⟩, ?_, ?_⟩
    · refine rectangular_append h.rectangular (received.filled row rfl) ?_
      -- the first given row has the columns of the first one that is stored
      intro first found
      obtain ⟨stored, stands, cells⟩ := head?_of_forall₂ h.cells found
      rw [← columns_of_cells cells]
      exact received.alike row rfl stored stands
    · rw [received.rows]
      exact List.rel_append (cells_of_binds b h.cells) (.cons (cells_placed numbered b) .nil)

/-- A step adds its row to the rows if it is accepted, and keeps them if it is not. -/
theorem Tabulates.step {rows : List (List (String × Value))} {d : Draft} (h : d.Tabulates rows) (entity : Entity)
    (s : Step) :
    (d.after (s.run entity)).Tabulates (rows ++ if s.accepted entity d then (s.offered? entity).toList else []) := by
  rcases s.accepted_or_rejected entity d with ⟨accepted, gave⟩ | ⟨rejected, e, failed⟩
  · rw [if_pos accepted]
    exact h.receives (Step.run_adds entity s gave).1.toBinds (Step.run_receives entity s gave)
      fun row offers => Step.carried_of_offered offers
  · rw [rejected, if_neg Bool.false_ne_true, List.append_nil]
    exact h.keepsRows (Step.run_keepsRows entity s failed)

theorem Tabulates.run {rows : List (List (String × Value))} {d : Draft} (h : d.Tabulates rows) (entity : Entity)
    (steps : List Step) : (d.afterAll entity steps).Tabulates (rows ++ d.acceptedRows entity steps) := by
  induction steps generalizing d rows with
  | nil =>
    rw [show d.acceptedRows entity [] = [] from rfl, List.append_nil]
    exact h
  | cons s rest ih =>
    rw [acceptedRows_cons, ← List.append_assoc]
    exact ih (h.step entity s)

theorem binds_after (entity : Entity) (d : Draft) (s : Step) : ∃ values, Binds values d (d.after (s.run entity)) := by
  rcases s.accepted_or_rejected entity d with ⟨-, gave⟩ | ⟨-, e, failed⟩
  · exact ⟨_, (Step.run_adds entity s gave).1.toBinds⟩
  · exact (Step.run_keepsRows entity s failed).binds

theorem dialect_afterAll (entity : Entity) (d : Draft) (steps : List Step) :
    (d.afterAll entity steps).dialect = d.dialect := by
  induction steps generalizing d with
  | nil => rfl
  | cons s rest ih =>
    obtain ⟨values, bound⟩ := binds_after entity d s
    exact (ih _).trans bound.dialect

end Draft

/-! ## (4) The text -/

namespace Dialect

def outputText (dialect : Dialect) (output : List String) : String :=
  if output.isEmpty then ""
  else match dialect with
    | .sqlserver => " OUTPUT " ++ ", ".intercalate (output.map fun column => "INSERTED." ++ dialect.quote column)
    | _ => ""

def returningText (dialect : Dialect) (output : List String) : String :=
  if output.isEmpty then ""
  else match dialect with
    | .mysql => "; SELECT LAST_INSERT_ID()"
    | .postgres | .sqlite => " RETURNING " ++ dialect.columnList output
    | .sqlserver => ""

theorem toText_insertText (dialect : Dialect) (table : Sql) (rows : List (List (String × Sql))) (output : List String) :
    (dialect.insertText table rows output).toText =
      "INSERT INTO " ++ table.toText ++ " (" ++ dialect.columnList (Draft.header rows) ++ ")"
        ++ dialect.outputText output ++ " VALUES "
        ++ ", ".intercalate (rows.map fun row => "(" ++ ", ".intercalate (row.map fun cell => cell.2.toText) ++ ")")
        ++ dialect.returningText output := by
  unfold insertText outputText returningText
  by_cases none : output.isEmpty = true
  · simp [none, valuesText, Draft.header, String.append_assoc, Function.comp_def]
  · cases dialect with
    | sqlserver =>
      simp [none, valuesText, Draft.header, String.append_assoc, Function.comp_def]
      rw [← String.append_assoc]
      rfl
    | _ => simp [none, valuesText, Draft.header, String.append_assoc, Function.comp_def]

end Dialect

namespace Draft

theorem commandText_of_rows {d : Draft} (inserts : d.operation = .insert) (some : d.rows ≠ []) :
    d.commandText = .ok ("INSERT INTO " ++ d.dialect.quote d.table ++ " ("
      ++ d.dialect.columnList (header d.rows) ++ ")" ++ d.dialect.outputText d.output ++ " VALUES "
      ++ ", ".intercalate (d.rows.map fun row => "(" ++ ", ".intercalate (row.map fun cell => cell.2.text) ++ ")")
      ++ d.dialect.returningText d.output) := by
  let cells := d.rows.map fun row => row.map fun cell => (cell.1, Sql.slot cell.2)
  have command : d.command = .ok (d.dialect.insertText (Sql.text (d.dialect.quote d.table)) cells d.output) := by
    have filled : ¬ d.rows.isEmpty = true := by simpa using some
    simp only [Draft.command, insertTarget, inserts, if_neg filled]
    rfl
  have columns : header cells = header d.rows := by
    unfold header cells
    cases d.rows with
    | nil => rfl
    | cons first rest => simp [Function.comp_def]
  have shown (p : Placeholder) : (Sql.slot p).toText = p.text := by
    simp [Sql.toText, Sql.slot, Piece.toText]
  rw [commandText, command, Except.map, Dialect.toText_insertText, columns]
  simp [cells, Function.comp_def, shown]

end Draft

namespace Query

open Draft

/-- (4) However rows and other steps follow each other, and whichever of them are rejected:
    the stored rows have the columns of the first one, and the rows that were accepted are
    in them, each value under its own placeholder. A rejected row leaves no trace. The text
    of the INSERT lists these columns and has a placeholder for each in every tuple. -/
theorem insert_rows_stay_rectangular {dialect : Dialect} {stem : String} {entity : Entity} {operation : Operation}
    {start : Nat} {begun : Query} (started : Query.start ⟨some dialect, stem⟩ entity operation start = .ok begun)
    (steps : List Step) :
    let d := begun.draft.afterAll entity steps
    let accepted := begun.draft.acceptedRows entity steps
    let tuples := d.rows.map fun row => row.map fun cell => cell.2.text
    Rectangular d.rows ∧
    List.Forall₂ (List.Forall₂ d.Holds) d.rows accepted ∧
    (∀ s : Step, s.insertsRow = true → s.accepted entity d = false → d.after (s.run entity) = d) ∧
    (d.operation = .insert → accepted ≠ [] →
      d.commandText = .ok ("INSERT INTO " ++ dialect.quote d.table ++ " ("
        ++ dialect.columnList (header accepted) ++ ")" ++ dialect.outputText d.output ++ " VALUES "
        ++ ", ".intercalate (tuples.map fun tuple => "(" ++ ", ".intercalate tuple ++ ")")
        ++ dialect.returningText d.output) ∧
      (∀ tuple ∈ tuples, tuple.length = (header accepted).length) ∧
      List.Forall₂ (List.Forall₂ fun text value => d.parameters.shown? dialect text = some value) tuples
        (accepted.map fun row => row.map Prod.snd)) := by
  intro d accepted tuples
  have tabulates : d.Tabulates accepted := by
    obtain ⟨-, fresh⟩ := start_unused started
    have begins : begun.draft.Tabulates [] := by
      refine ⟨⟨[], ?_, fresh.parameters⟩, by simp [Rectangular], ?_⟩
      · rw [fresh.counter, fresh.base]
        rfl
      · obtain rfl := Except.ok.inj started
        exact .nil
    exact begins.run entity steps
  have spelled : d.dialect = dialect := by
    rw [dialect_afterAll, (start_unused started).2.dialect]
  have columns := tabulates.columns
  have top : header d.rows = header accepted := by rw [header_eq, columns, ← header_eq]
  have rectangular : Rectangular d.rows := by
    rw [rectangular_iff, columns, top, ← rectangular_iff]
    exact tabulates.rectangular
  refine ⟨rectangular, tabulates.cells, ?_, ?_⟩
  · intro s inserts rejected
    rcases s.accepted_or_rejected entity d with ⟨accepted, -⟩ | ⟨-, e, failed⟩
    · rw [rejected] at accepted
      cases accepted
    · exact Step.intact_of_insertsRow entity inserts d e _ failed
  · intro inserts some
    have stored : d.rows ≠ [] := by
      intro none
      rw [none] at columns
      exact some (List.map_eq_nil_iff.mp columns.symm)
    refine ⟨?_, ?_, ?_⟩
    · rw [commandText_of_rows inserts stored, spelled, top, List.map_map]
      rfl
    · intro tuple member
      obtain ⟨row, stands, rfl⟩ := List.mem_map.mp member
      rw [← top, ← (rectangular row stands).2, List.length_map, List.length_map]
    · rw [List.forall₂_map_left_iff, List.forall₂_map_right_iff]
      refine tabulates.cells.imp fun cells row held => ?_
      rw [List.forall₂_map_left_iff, List.forall₂_map_right_iff]
      refine held.imp fun cell given holds => ?_
      rw [← spelled]
      exact holds.2

/-- A row from a record; an object that lacks a column; a list of values; a condition that fails
    when it has bound its first value; and an object whose values come after all of these. -/
theorem insert_rows_stay_rectangular_interleaved :
    let users : Entity := ⟨"User", "users", [("name", "full_name"), ("age", "age")]⟩
    let steps : List Step :=
      [.values (.record [("name", .constant (.text "ann")),
         ("age", .binary .add (.constant (.int 20)) (.constant (.int 1)))]),
       .value (.ok (.object [("name", .string "eve")])),
       .filterIn (.field users "age") false [.int 7, .int 8],
       .filter (.binary .and (.binary .equal (.field users "age") (.constant (.int 9)))
         (.binary .less (.field users "name") (.constant .null))),
       .value (.ok (.object [("age", .number (.integer 30)), ("name", .string "bob")]))]
    ∃ begun, Query.start ⟨some .postgres, "P"⟩ users .insert 0 = .ok begun ∧
      let d := begun.draft.afterAll users steps
      d.commandText = .ok "INSERT INTO users (full_name, age) VALUES ($1, $2), ($6, $7)" ∧
      List.Forall₂ (List.Forall₂ fun text value => d.parameters.shown? .postgres text = some value)
        [["$1", "$2"], ["$6", "$7"]] [[.text "ann", .int 21], [.text "bob", .int 30]] := by
  intro users steps
  let begun : Query := ⟨users, (((onTable .postgres "users").withStem "P").numberedFrom 0).withOperation .insert⟩
  have started : Query.start ⟨some .postgres, "P"⟩ users .insert 0 = .ok begun := rfl
  have text : (begun.draft.afterAll users steps).commandText.toOption =
      some "INSERT INTO users (full_name, age) VALUES ($1, $2), ($6, $7)" := by decide +kernel
  have verdicts : begun.draft.verdicts users steps = [true, false, true, false, true] := by decide +kernel
  have accepted : begun.draft.acceptedRows users steps =
      [[("full_name", .text "ann"), ("age", .int 21)], [("full_name", .text "bob"), ("age", .int 30)]] := by
    rw [acceptedRows, verdicts]
    rfl
  have inserts : (begun.draft.afterAll users steps).operation = .insert := by decide +kernel
  have tuples : ((begun.draft.afterAll users steps).rows.map fun row => row.map fun cell => cell.2.text) =
      [["$1", "$2"], ["$6", "$7"]] := by decide +kernel
  obtain ⟨-, -, shown⟩ := (insert_rows_stay_rectangular started steps).2.2.2 inserts (by simp [accepted])
  rw [accepted, tuples] at shown
  exact ⟨begun, started, Drafting.eq_ok_of_toOption text, shown⟩

end Query

end Querycraft
