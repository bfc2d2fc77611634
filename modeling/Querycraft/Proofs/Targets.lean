/-
  Querycraft.Proofs.Targets — the tables of an INSERT from a SELECT.

  A draft keeps its own table, the joined ones and the one that an `insertInto` names in
  one list, in the order they were added. The INSERT writes to the last of the list, and
  the SELECT reads as many from its front as there are joins, and one more. Proved:
  (1) a step that keeps the operation adds the table that it joins, and to the selection
      only if it selects (`Step.run_joined`), and so does every program of such steps
      (`Step.runAll_joined`);
  (2) the text of an INSERT from a SELECT names the last table and lists every column of
      the tables at the front (`Draft.commandText_of_insertFrom`,
      `Draft.toText_selectionSql`);
  (3) so a program with one `insertInto` writes to the table that was added last, and
      that is the named one, with the others as sources, exactly when every join behind
      the `insertInto` is of the named table (`Query.insert_writes_to_last_table`). A join
      of another table takes the INSERT (`Query.join_behind_insert_takes_it`).
-/

import Querycraft.Proofs.Numbering

namespace Querycraft

namespace Step

def joined? : Step → Option String
  | .join _ other _ => some other.table
  | _ => none

def joinedTables (program : List Step) : List String := program.filterMap joined?

def keepsOperation : Step → Bool
  | .selectCount _ | .insertInto .. => false
  | _ => true

def selects : Step → Bool
  | .select _ | .selectCount _ | .selectFunction .. => true
  | _ => false

end Step

/-! ## (1) What steps do to the tables -/

namespace Draft

open Drafting

structure Frame where
  dialect : Dialect
  operation : Operation
  tables : List String
  joins : List Join
  selection : List Selected

def frame (d : Draft) : Frame := ⟨d.dialect, d.operation, d.tables, d.joins, d.selection⟩

@[simp] theorem frame_push (d : Draft) (fragment : Fragment Value) : (d.push fragment).frame = d.frame := by
  rw [push_eq]
  rfl

@[simp] theorem frame_conjoined (d : Draft) : d.conjoined.frame = d.frame := by
  unfold conjoined
  split <;> simp

@[simp] theorem frame_disjoined (d : Draft) : d.disjoined.frame = d.frame := by
  unfold disjoined
  split <;> simp

theorem Writes.frame_eq {values : List Value} {d d' : Draft} (h : Writes values d d') : d'.frame = d.frame := by
  obtain ⟨new, rfl, -, -⟩ := h
  rfl

/-- Taking over what was drafted on the side touches parameters only. -/
theorem frame_of_adopt {sub d d' : Draft} (h : Gives (adopt sub) d () d') : d'.frame = d.frame := by
  simp only [adopt, gives_bind, gives_get] at h
  obtain ⟨_, _, ⟨rfl, rfl⟩, rest⟩ := h
  split at rest
  · exact absurd rest gives_throw
  · rw [gives_set] at rest
    rw [← rest]
    rfl

theorem frame_of_renderArguments {arguments : List Expr} {rendered : List Sql} {d d' : Draft}
    (h : Gives (renderArguments arguments) d rendered d') : d'.frame = d.frame := by
  rw [(adds_renderArguments h).1]
  rfl

theorem frame_of_insertRow {row : List (String × Value)} {d d' : Draft} (h : Gives (insertRow row) d () d') :
    d'.frame = d.frame := by
  obtain ⟨-, -, rfl⟩ := gives_insertRow.mp h
  rfl

theorem frame_of_insert {entity : Entity} {e : Expr} {d d' : Draft} (h : Gives (insert entity e) d () d') :
    d'.frame = d.frame := by
  cases e with
  | record entries =>
    obtain ⟨row, -, inserted⟩ := gives_insert.mp h
    exact frame_of_insertRow inserted
  | _ => exact absurd h gives_throw

theorem frame_of_insertValue {entity : Entity} {document : Json} {d d' : Draft}
    (h : Gives (insertValue entity (Value.ofJson document)) d () d') : d'.frame = d.frame := by
  by_cases object : ∃ members, document = .object members
  · obtain ⟨members, rfl⟩ := object
    exact frame_of_insertRow h
  · obtain ⟨e, fails⟩ := insertValue_of_no_object entity fun members same => object ⟨members, same⟩
    rw [fails] at h
    exact absurd h gives_throw

theorem frame_of_update {entity : Entity} {e : Expr} {d d' : Draft} (h : Gives (update entity e) d () d') :
    d'.frame = d.frame := by
  cases e with
  | record entries =>
    obtain ⟨new, rfl, -⟩ := assigns_assignEntries h
    rfl
  | _ => exact absurd h gives_throw

/-- A draft that joined these tables to the earlier one, and selects what that did. -/
structure Joined (more : List String) (silent : Bool) (d d' : Draft) : Prop where
  dialect : d'.dialect = d.dialect
  operation : d'.operation = d.operation
  tables : d'.tables = d.tables ++ more
  joins : d'.joins.map Join.table = d.joins.map Join.table ++ more
  selection : silent = true → d'.selection = d.selection

theorem joined_of_frame {d d' : Draft} (h : d'.frame = d.frame) : Joined [] true d d' := by
  simp only [frame, Frame.mk.injEq] at h
  obtain ⟨dialect, operation, tables, joins, selection⟩ := h
  exact ⟨dialect, operation, by simp [tables], by simp [joins], fun _ => selection⟩

theorem joined_selection (d : Draft) (selection : List Selected) :
    Joined [] false d { d with selection := selection } := by
  refine ⟨rfl, rfl, by simp, by simp, ?_⟩
  intro silent
  cases silent

theorem Joined.trans {first second : List String} {silent silent' : Bool} {d d' d'' : Draft}
    (h : Joined first silent d d') (h' : Joined second silent' d' d'') :
    Joined (first ++ second) (silent && silent') d d'' := by
  refine ⟨h'.dialect.trans h.dialect, h'.operation.trans h.operation, ?_, ?_, ?_⟩
  · rw [h'.tables, h.tables, List.append_assoc]
  · rw [h'.joins, h.joins, List.append_assoc]
  · intro quiet
    rw [Bool.and_eq_true] at quiet
    rw [h'.selection quiet.2, h.selection quiet.1]

theorem joined_joinOn {kind : JoinKind} {table : String} {on : Expr} {d d' : Draft}
    (h : Gives (joinOn kind table on) d () d') : Joined [table] true d d' := by
  obtain ⟨sub, d₁, -, adopted, rfl⟩ := gives_joinOn.mp h
  have same := frame_of_adopt adopted
  simp only [frame, Frame.mk.injEq] at same
  obtain ⟨dialect, operation, tables, joins, selection⟩ := same
  exact ⟨dialect, operation, by simp [tables], by simp [joins], fun _ => selection⟩

end Draft

namespace Step

open Drafting Draft

/-- A step that keeps the operation adds the table it joins, and nothing to the selection
    unless it selects. -/
theorem run_joined (entity : Entity) {s : Step} (keeps : s.keepsOperation = true) {d d' : Draft}
    (h : Gives (run entity s) d () d') : Joined s.joined?.toList (!s.selects) d d' := by
  cases s with
  | filter e =>
    have second := gives_modify_then.mp h
    exact joined_of_frame ((writes_predicate second).frame_eq.trans (frame_conjoined d))
  | orFilter e =>
    have second := gives_modify_then.mp h
    exact joined_of_frame ((writes_predicate second).frame_eq.trans (frame_disjoined d))
  | filterTemplate template arguments =>
    obtain ⟨-, rendered, d₁, written, rfl⟩ := gives_templated.mp (gives_modify_then.mp h)
    refine joined_of_frame ?_
    rw [frame_push, frame_of_renderArguments written, frame_conjoined]
  | filterIn key negated members =>
    have second := gives_modify_then.mp h
    exact joined_of_frame ((writes_keyIn second).frame_eq.trans (frame_conjoined d))
  | filterInQuery key negated other program =>
    simp only [run, gives_bind, gives_modify, exists_unit, gives_onOffshoot] at h
    obtain ⟨_, rfl, sub, _, ⟨-, rfl⟩, second⟩ := h
    obtain ⟨c, sql, d₁, -, -, adopted, rfl⟩ := gives_keyInQuery.mp second
    refine joined_of_frame ?_
    rw [frame_push, frame_of_adopt adopted, frame_conjoined]
  | filterBetween key negated low high =>
    have second := gives_modify_then.mp h
    exact joined_of_frame ((writes_keyBetween second).frame_eq.trans (frame_conjoined d))
  | orFilterBetween key low high =>
    have second := gives_modify_then.mp h
    exact joined_of_frame ((writes_keyBetween second).frame_eq.trans (frame_disjoined d))
  | select e =>
    obtain ⟨entries, -, rfl⟩ := gives_select.mp h
    rw [foldl_addSelected]
    exact joined_selection d _
  | selectFunction function e =>
    obtain ⟨added, rfl⟩ := gives_selectFunction h
    exact joined_selection d _
  | orderBy key descending =>
    obtain ⟨c, -, rfl⟩ := gives_orderBy.mp h
    exact joined_of_frame rfl
  | groupBy key =>
    obtain ⟨c, -, rfl⟩ := gives_groupBy.mp h
    exact joined_of_frame rfl
  | having function key op v =>
    obtain ⟨-, c, -, rfl⟩ := gives_having.mp h
    exact joined_of_frame rfl
  | take _ | skip _ | page _ _ =>
    obtain rfl := gives_modify.mp h
    exact joined_of_frame rfl
  | join kind other on => exact joined_joinOn h
  | values e => exact joined_of_frame (frame_of_insert h)
  | value document =>
    cases document with
    | ok document => exact joined_of_frame (frame_of_insertValue h)
    | error reason => exact absurd h gives_throw
  | output e =>
    simp only [run, gives_bind, gives_given, gives_modify] at h
    obtain ⟨columns, _, ⟨-, rfl⟩, rfl⟩ := h
    exact joined_of_frame rfl
  | set e => exact joined_of_frame (frame_of_update h)
  | reject error => exact absurd h gives_throw
  | selectCount _ | insertInto _ _ => cases keeps

theorem runAll_joined (entity : Entity) {program : List Step} (keeps : ∀ s ∈ program, s.keepsOperation = true)
    {d d' : Draft} (h : Gives (runAll entity program) d () d') :
    Joined (joinedTables program) (program.all fun s => !s.selects) d d' := by
  induction program generalizing d with
  | nil =>
    obtain ⟨-, rfl⟩ := gives_pure.mp h
    exact joined_of_frame rfl
  | cons s rest ih =>
    obtain ⟨⟨⟩, d₁, first, others⟩ := gives_bind.mp h
    have tables : joinedTables (s :: rest) = s.joined?.toList ++ joinedTables rest := by
      cases found : s.joined? with
      | none => simp [joinedTables, found]
      | some table => simp [joinedTables, found]
    rw [tables, List.all_cons]
    exact (run_joined entity (keeps s (by simp)) first).trans
      (ih (fun other member => keeps other (by simp [member])) others)

end Step

/-! ## (2) The text of an INSERT from a SELECT -/

namespace Draft

/-- An INSERT from a SELECT names the last table, and selects behind the columns. -/
theorem commandText_of_insertFrom {d : Draft} (h : d.operation = .insertFrom) :
    ∃ behind, d.commandText = .ok ("INSERT INTO " ++ d.dialect.quote (d.tables.getLast?.getD "") ++ " ("
      ++ d.dialect.columnList d.filled ++ ") SELECT " ++ d.selectionSql.toText ++ " FROM " ++ behind) := by
  let head : Sql := ("INSERT INTO " : Sql) ++ Sql.text (d.dialect.quote (d.tables.getLast?.getD ""))
    ++ Sql.text (" (" ++ d.dialect.columnList d.filled ++ ") SELECT ") ++ d.selectionSql ++ " FROM " ++ d.source
  have shown : head.isBlank = false := by
    simp [head, Sql.isBlank]
  obtain ⟨behind, text⟩ := Sql.toText_clauses_cons shown [d.whereClause]
  refine ⟨d.source.toText ++ behind, ?_⟩
  have command : d.command = .ok (Sql.clauses [head, d.whereClause]) := by
    simp only [command, insertTarget, h]
    rfl
  rw [commandText, command]
  show Except.ok (Sql.clauses [head, d.whereClause]).toText = _
  rw [text]
  simp [head, String.append_assoc]

/-- Without a selection a SELECT lists every column of its sources. -/
theorem toText_selectionSql {d : Draft} (h : d.operation ≠ .count) (nothing : d.selection = []) :
    d.selectionSql.toText = ", ".intercalate (d.sourceTables.map fun table => d.dialect.quote table ++ ".*") := by
  simp [selectionSql, nothing, h, Function.comp_def, Selected.sql]

end Draft

/-! ## (3) Programs with one INSERT -/

/-- A list moved on by one, with another entry in front, is itself exactly where it repeats
    that entry. -/
theorem dropLast_cons_eq_iff {α : Type} (a : α) (entries : List α) :
    (a :: entries).dropLast = entries ↔ ∀ b ∈ entries, b = a := by
  induction entries generalizing a with
  | nil => simp
  | cons b rest ih =>
    rw [List.dropLast_cons_cons, List.cons.injEq, ih]
    constructor
    · intro ⟨same, others⟩ c member
      rcases List.mem_cons.mp member with first | later
      · rw [first, same]
      · rw [others c later, same]
    · intro all
      have same : b = a := all b (by simp)
      refine ⟨same.symm, fun c member => ?_⟩
      rw [same]
      exact all c (by simp [member])

namespace Query

open Drafting Draft Step

/-- A SELECT over `table` made the source of an INSERT into `target`, with joins before
    and after. -/
structure Inserting (dialect : Dialect) (table target : String) (before after : List String) (d : Draft) : Prop where
  dialect : d.dialect = dialect
  operation : d.operation = .insertFrom
  tables : d.tables = table :: before ++ target :: after
  joins : d.joins.map Join.table = before ++ after

section Inserting

variable {dialect : Dialect} {table target : String} {before after : List String} {d : Draft}

theorem Inserting.lastTable (h : Inserting dialect table target before after d) :
    d.tables.getLast?.getD "" = after.getLastD target := by
  rw [h.tables, List.getLast?_append, List.getLast?_cons, List.getLastD_eq_getLast?]
  rfl

theorem Inserting.insertTarget (h : Inserting dialect table target before after d) :
    d.insertTarget = .ok (dialect.quote (after.getLastD target)) := by
  simp only [Draft.insertTarget, h.operation, h.dialect, h.lastTable]

theorem Inserting.sourceTables (h : Inserting dialect table target before after d) :
    d.sourceTables = table :: before ++ (target :: after).dropLast := by
  have joins : d.joins.length = before.length + after.length := by
    rw [← List.length_map Join.table, h.joins, List.length_append]
  rw [Draft.sourceTables, h.tables, joins, ← List.dropLast_append_of_ne_nil (by simp), List.dropLast_eq_take]
  congr 1
  simp only [List.length_append, List.length_cons]
  omega

end Inserting

/-- A program with one `insertInto` and otherwise steps that keep the operation. -/
theorem inserting_of_run {dialect : Dialect} {stem : String} {entity target : Entity} {start : Nat}
    {columns : Expr} {before after : List Step} {begun q : Query}
    (started : Query.start ⟨some dialect, stem⟩ entity .select start = .ok begun)
    (others : ∀ s ∈ before ++ after, s.keepsOperation = true)
    (ran : begun.run (before ++ .insertInto target columns :: after) = .ok q) :
    Inserting dialect entity.table target.table (joinedTables before) (joinedTables after) q.draft ∧
      ((∀ s ∈ before ++ after, s.selects = false) → q.draft.selection = []) := by
  cases started
  obtain ⟨d, gave, rfl⟩ := run_eq_ok.mp ran
  obtain ⟨d₁, first, rest⟩ := (gives_runAll_append _).mp gave
  obtain ⟨⟨⟩, d₂, inserted, last⟩ := gives_bind.mp rest
  have joined := runAll_joined _ (fun s member => others s (by simp [member])) first
  have joined' := runAll_joined _ (fun s member => others s (by simp [member])) last
  simp only [Step.run, gives_bind, gives_projectionOf, gives_modify] at inserted
  obtain ⟨projection, _, ⟨-, rfl⟩, rfl⟩ := inserted
  refine ⟨⟨?_, ?_, ?_, ?_⟩, ?_⟩
  · exact joined'.dialect.trans joined.dialect
  · exact joined'.operation
  · rw [joined'.tables]
    simp only [Draft.insertInto, joined.tables]
    simp [withOperation, numberedFrom, withStem, onTable]
  · rw [joined'.joins]
    simp only [Draft.insertInto, joined.joins]
    simp [withOperation, numberedFrom, withStem, onTable]
  · intro silent
    have quiet : ∀ program : List Step, (∀ s ∈ program, s ∈ before ++ after) →
        (program.all fun s => !s.selects) = true := by
      intro program inside
      rw [List.all_eq_true]
      intro s member
      simp [silent s (inside s member)]
    rw [joined'.selection (quiet after (by simp +contextual))]
    exact joined.selection (quiet before (by simp +contextual))

/-- A SELECT turned into an INSERT writes to the table that was added last, be it a
    joined one, and without a selection of its own it lists the other tables in the order
    they were added. So it writes to the table that was named and lists the query's own
    table and the joined ones exactly when every join behind the `insertInto` is of the
    named table. -/
theorem insert_writes_to_last_table {dialect : Dialect} {stem : String} {entity target : Entity} {start : Nat}
    {columns : Expr} {before after : List Step} {begun q : Query}
    (started : Query.start ⟨some dialect, stem⟩ entity .select start = .ok begun)
    (others : ∀ s ∈ before ++ after, s.keepsOperation = true)
    (ran : begun.run (before ++ .insertInto target columns :: after) = .ok q) :
    let written := (joinedTables after).getLastD target.table
    let listed := entity.table :: joinedTables before ++ (target.table :: joinedTables after).dropLast
    q.draft.insertTarget = .ok (dialect.quote written) ∧
      q.draft.sourceTables = listed ∧
      (∃ filled selection behind,
        q.draft.commandText = .ok ("INSERT INTO " ++ dialect.quote written ++ " (" ++ filled ++ ") SELECT "
          ++ selection ++ " FROM " ++ behind) ∧
        ((∀ s ∈ before ++ after, s.selects = false) →
          selection = ", ".intercalate (listed.map fun table => dialect.quote table ++ ".*"))) ∧
      (q.draft.insertTarget = .ok (dialect.quote target.table) ∧
          q.draft.sourceTables.map dialect.quote =
            (entity.table :: joinedTables before ++ joinedTables after).map dialect.quote ↔
        ∀ table ∈ joinedTables after, dialect.quote table = dialect.quote target.table) := by
  intro written listed
  obtain ⟨inserting, silent⟩ := inserting_of_run started others ran
  have target_eq := inserting.insertTarget
  have sources := inserting.sourceTables
  refine ⟨target_eq, sources, ?_, ?_⟩
  · -- the text
    obtain ⟨behind, text⟩ := commandText_of_insertFrom inserting.operation
    rw [inserting.dialect, inserting.lastTable] at text
    refine ⟨_, _, behind, text, fun nothing => ?_⟩
    rw [toText_selectionSql (by simp [inserting.operation]) (silent nothing), inserting.dialect, sources]
  · -- the tables before the `insertInto` are the same on both sides; behind it the named
    -- table comes in and the last one falls out
    rw [target_eq, sources, List.map_append, List.map_append, List.append_cancel_left_eq, List.map_dropLast,
      List.map_cons, dropLast_cons_eq_iff]
    constructor
    · intro ⟨_, same⟩ table member
      exact same _ (List.mem_map_of_mem member)
    · intro same
      refine ⟨?_, ?_⟩
      · have last : (joinedTables after).getLastD target.table ∈ target.table :: joinedTables after :=
          List.getLastD_mem_cons
        rcases List.mem_cons.mp last with named | joined
        · rw [named]
        · rw [same _ joined]
      · intro name member
        obtain ⟨table, joined, rfl⟩ := List.mem_map.mp member
        exact same table joined

/-- Users with their groups copied into a log: with the join first, the log is written and
    both tables are listed. -/
theorem insert_writes_to_last_table_joins_first :
    let users : Entity := ⟨"User", "Users", [("id", "Id")]⟩
    let groups : Entity := ⟨"UserGroup", "UserGroups", []⟩
    let log : Entity := ⟨"Log", "audit.event_log", [("message", "MESSAGE")]⟩
    let before : List Step := [.join .inner groups (.binary .equal (.field users "id") (.field groups "Id"))]
    let after : List Step := [.filterIn (.field users "id") true [.int 1, .int 2], .take 5]
    ∃ begun q, Query.start ⟨some .sqlite, "Param"⟩ users .select 0 = .ok begun ∧
      begun.run (before ++ .insertInto log (.field log "message") :: after) = .ok q ∧
      q.draft.insertTarget = .ok "audit.event_log" ∧
      ∃ filled behind, q.draft.commandText = .ok ("INSERT INTO " ++ "audit.event_log" ++ " (" ++ filled
        ++ ") SELECT " ++ "Users.*, UserGroups.*" ++ " FROM " ++ behind) := by
  intro users groups log before after
  let begun : Query := ⟨users, (Draft.onTable .sqlite "Users").withStem "Param"⟩
  have started : Query.start ⟨some .sqlite, "Param"⟩ users .select 0 = .ok begun := rfl
  have succeeds : (begun.run (before ++ .insertInto log (.field log "message") :: after)).isOk = true := by
    decide +kernel
  cases ran : begun.run (before ++ .insertInto log (.field log "message") :: after) with
  | error e =>
    rw [ran] at succeeds
    cases succeeds
  | ok q =>
    obtain ⟨target, -, ⟨filled, selection, behind, text, listed⟩, -⟩ :=
      insert_writes_to_last_table started (by simp [before, after, keepsOperation]) ran
    have name : Dialect.sqlite.quote log.table = "audit.event_log" := by decide +kernel
    have tables : ", ".intercalate ([users.table, groups.table].map fun table =>
        Dialect.sqlite.quote table ++ ".*") = "Users.*, UserGroups.*" := by decide +kernel
    have selected : selection = "Users.*, UserGroups.*" :=
      (listed (by simp [before, after, selects])).trans tables
    rw [selected] at text
    exact ⟨begun, q, started, ran, target.trans (congrArg _ name), filled, behind, name ▸ text⟩

/-- The join behind the `insertInto` takes the INSERT: the groups are written to, and the
    log, which was named, is selected from in their place. -/
theorem join_behind_insert_takes_it :
    let users : Entity := ⟨"User", "Users", [("id", "Id")]⟩
    let groups : Entity := ⟨"UserGroup", "UserGroups", []⟩
    let log : Entity := ⟨"Log", "audit.event_log", [("message", "MESSAGE")]⟩
    let program : List Step :=
      [.insertInto log (.field log "message"),
       .join .inner groups (.binary .equal (.field users "id") (.field groups "Id"))]
    ∃ begun q, Query.start ⟨some .sqlite, "Param"⟩ users .select 0 = .ok begun ∧ begun.run program = .ok q ∧
      Dialect.sqlite.quote log.table = "audit.event_log" ∧
      q.draft.insertTarget = .ok "UserGroups" ∧
      q.draft.commandText = .ok ("INSERT INTO UserGroups (MESSAGE) SELECT Users.*, audit.event_log.* "
        ++ "FROM Users INNER JOIN UserGroups ON Users.Id = UserGroups.Id") := by
  intro users groups log program
  let begun : Query := ⟨users, (Draft.onTable .sqlite "Users").withStem "Param"⟩
  have answers : (begun.run program).toOption.map (fun q =>
        (q.draft.insertTarget.toOption, q.draft.commandText.toOption)) =
      some (some "UserGroups", some ("INSERT INTO UserGroups (MESSAGE) SELECT Users.*, audit.event_log.* "
        ++ "FROM Users INNER JOIN UserGroups ON Users.Id = UserGroups.Id")) := by
    decide +kernel
  obtain ⟨q, ran, both⟩ := Option.map_eq_some_iff.mp answers
  have both := Prod.mk.inj both
  exact ⟨begun, q, rfl, eq_ok_of_toOption ran, by decide +kernel, eq_ok_of_toOption both.1, eq_ok_of_toOption both.2⟩

end Query

end Querycraft
