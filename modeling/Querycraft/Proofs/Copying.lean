/-
  Querycraft.Proofs.Copying — what an INSERT takes over of the SELECT it copies from.

  `insertInto` turns a SELECT into the source of an INSERT. The draft keeps all its
  clauses, but the text of the INSERT ends with the condition: what groups, orders or
  limits the rows is left out, and a count without columns lists columns instead. Proved:
  (1) behind its first clause the text of a statement is that of the clauses in order
      (`Sql.toText_clauses`), so the text of a query is that of the plain query, and then
      what refines it (`Draft.toText_queryCommand`);
  (2) a program without an `insertInto` keeps a query a query, with one table for each
      join and one more (`Step.runAll_selecting`);
  (3) so the INSERT is its own head and then the plain query, and this is the whole query
      exactly when nothing refines it (`Query.insert_copies_plain_query`). Otherwise rows
      are copied that the query would not give (`Query.insert_leaves_out_refinements`).
-/

import Querycraft.Proofs.Lexing
import Querycraft.Proofs.Quoting
import Querycraft.Proofs.Targets
import Querycraft.Proofs.Usage

namespace Querycraft

/-! ## (1) Texts of statements -/

theorem eq_append_self_iff (a b : String) : a = a ++ b ↔ b = "" := by
  rw [← String.toList_inj, String.toList_append, List.self_eq_append_right, String.toList_eq_nil_iff]

namespace Sql

theorem trailing_append (parts others : List Sql) : trailing (parts ++ others) = trailing parts ++ trailing others := by
  simp [trailing]

theorem trailing_eq_empty_iff (parts : List Sql) : trailing parts = "" ↔ ∀ part ∈ parts, part.isBlank = true := by
  induction parts with
  | nil => simp [trailing]
  | cons part rest ih =>
    rw [show part :: rest = [part] ++ rest from rfl, trailing_append, String.append_eq_empty_iff, ih]
    cases blank : part.isBlank <;> simp [trailing, blank]

end Sql

namespace Dialect

/-- Rows are limited by a text exactly when a limit or an offset is set. -/
theorem isBlank_pagination_iff (dialect : Dialect) (size : Option UInt64) (offset : UInt64) :
    (Sql.text ((dialect.pagination size offset).getD "")).isBlank = true ↔ size = none ∧ offset = 0 := by
  cases size with
  | none => by_cases first : offset = 0 <;> cases dialect <;> simp [pagination, Sql.isBlank, first]
  | some n => by_cases first : offset = 0 <;> cases dialect <;> simp [pagination, Sql.isBlank, first]

/-- Without a limit no dialect adds an order of its own. -/
theorem orderClause_unlimited (dialect : Dialect) (order : Sql) : dialect.orderClause { order } = order := by
  cases dialect <;> rfl

end Dialect

namespace Draft

def refinements (d : Draft) : List Sql :=
  let having := listClause "HAVING" " AND " (d.groupTests.map (GroupTest.sql d.dialect))
  let order := listClause "ORDER BY" ", " (d.ordering.map (SortKey.sql d.dialect))
  [listClause "GROUP BY" ", " (d.grouping.map (Fragment.columnText d.dialect)),
    having,
    d.dialect.orderClause { order, pageSize := d.pageSize, offset := d.offset },
    Sql.text ((d.dialect.pagination d.pageSize d.offset).getD "")]

theorem isBlank_listClause (keyword separator : String) (entries : List Sql) :
    (listClause keyword separator entries).isBlank = entries.isEmpty := by
  cases entries with
  | nil => rfl
  | cons entry rest => simp [listClause, Sql.isBlank]

structure Unrefined (d : Draft) : Prop where
  grouping : d.grouping = []
  groupTests : d.groupTests = []
  ordering : d.ordering = []
  pageSize : d.pageSize = none
  offset : d.offset = 0

theorem trailing_refinements_eq_empty_iff (d : Draft) : Sql.trailing d.refinements = "" ↔ d.Unrefined := by
  rw [Sql.trailing_eq_empty_iff]
  simp only [refinements, List.forall_mem_cons, isBlank_listClause, Dialect.isBlank_pagination_iff]
  constructor
  · rintro ⟨grouping, groupTests, ordering, ⟨pageSize, offset⟩, -⟩
    rw [pageSize, offset, Dialect.orderClause_unlimited, isBlank_listClause] at ordering
    exact ⟨by simpa using grouping, by simpa using groupTests, by simpa using ordering, pageSize, offset⟩
  · rintro ⟨grouping, groupTests, ordering, pageSize, offset⟩
    rw [pageSize, offset, Dialect.orderClause_unlimited]
    simp [grouping, groupTests, ordering, isBlank_listClause]

/-- The text of a query: what it selects, from where and on which condition, and then what
    refines it. -/
theorem toText_queryCommand (d : Draft) :
    d.queryCommand.toText = "SELECT " ++ d.selectionSql.toText ++ " FROM " ++ d.source.toText
      ++ Sql.trailing [d.whereClause] ++ Sql.trailing d.refinements := by
  let head : Sql := ("SELECT " : Sql) ++ d.selectionSql ++ " FROM " ++ d.source
  have shown : head.isBlank = false := by simp [head, Sql.isBlank]
  have command : d.queryCommand = Sql.clauses (head :: ([d.whereClause] ++ d.refinements)) := rfl
  rw [command, Sql.toText_clauses shown, Sql.trailing_append]
  simp [head, String.append_assoc]

def unrefined (d : Draft) : Draft :=
  { d with
    operation := .select
    grouping := []
    groupTests := []
    ordering := []
    pageSize := none
    offset := 0 }

theorem toText_unrefined (d : Draft) :
    d.unrefined.queryCommand.toText = "SELECT " ++ d.unrefined.selectionSql.toText ++ " FROM " ++ d.source.toText
      ++ Sql.trailing [d.whereClause] := by
  have plain : Sql.trailing d.unrefined.refinements = "" :=
    d.unrefined.trailing_refinements_eq_empty_iff.mpr ⟨rfl, rfl, rfl, rfl, rfl⟩
  rw [toText_queryCommand, plain, String.append_empty]
  rfl

section InsertInto

variable {d : Draft} (sources : d.tables.length = d.joins.length + 1) (target : String) (columns : List String)

theorem command_insertInto :
    (d.insertInto target columns).command = .ok (d.dialect.insertFromText (Sql.text (d.dialect.quote target)) columns
      (d.insertInto target columns).selectionSql (d.insertInto target columns).source d.whereClause) := by
  have last : (d.insertInto target columns).tables.getLast?.getD "" = target := by simp [insertInto]
  have command : (d.insertInto target columns).command = .ok (d.dialect.insertFromText
      (Sql.text (d.dialect.quote ((d.insertInto target columns).tables.getLast?.getD ""))) columns
      (d.insertInto target columns).selectionSql (d.insertInto target columns).source d.whereClause) := rfl
  rw [command, last]

include sources

/-- The table behind the sources is none of them. -/
theorem selectionSql_insertInto : (d.insertInto target columns).selectionSql = d.unrefined.selectionSql := by
  simp only [selectionSql, sourceTables, insertInto, unrefined]
  rw [List.take_append_of_le_length (by omega)]
  rfl

theorem source_insertInto : (d.insertInto target columns).source = d.source := by
  cases tables : d.tables with
  | nil => simp [tables] at sources
  | cons own others => simp [source, table, insertInto, tables]

/-- An INSERT from a SELECT is its own head and the plain SELECT. -/
theorem commandText_insertInto :
    (d.insertInto target columns).commandText = .ok ("INSERT INTO " ++ d.dialect.quote target ++ " ("
      ++ d.dialect.columnList columns ++ ") " ++ d.unrefined.queryCommand.toText) := by
  let head : Sql := ("INSERT INTO " : Sql) ++ Sql.text (d.dialect.quote target)
    ++ Sql.text (" (" ++ d.dialect.columnList columns ++ ") SELECT ") ++ d.unrefined.selectionSql ++ " FROM "
    ++ d.source
  have shown : head.isBlank = false := by simp [head, Sql.isBlank]
  rw [commandText, command_insertInto, selectionSql_insertInto sources, source_insertInto sources]
  show Except.ok (Sql.clauses [head, d.whereClause]).toText = _
  rw [Sql.toText_clauses shown, toText_unrefined]
  simp only [head, Sql.toText_append, Sql.toText_text, String.append_assoc]
  rw [show ") SELECT " = ") " ++ "SELECT " from rfl, String.append_assoc]

end InsertInto

/-! ## Counts -/

/-- A spelled name shows no character that names do not have before its first quote. -/
theorem find?_spell (dialect : Dialect) (parts : List Identifier.Part) :
    (Identifier.spell dialect.quoting parts).find? (fun c => !Lexer.isNameChar c) = none ∨
      (Identifier.spell dialect.quoting parts).find? (fun c => !Lexer.isNameChar c) =
        some dialect.quoting.opening := by
  have part : ∀ part, (Identifier.spellPart dialect.quoting part).find? (fun c => !Lexer.isNameChar c) = none ∨
      (Identifier.spellPart dialect.quoting part).find? (fun c => !Lexer.isNameChar c) =
        some dialect.quoting.opening := by
    intro part
    rcases Identifier.spellPart_cases dialect.quoting part with ⟨-, same, star | safe⟩ | ⟨-, same⟩
    · left
      rw [same, star]
      rfl
    · left
      rw [same, List.find?_eq_none]
      intro c member
      simp [Lexer.isNameChar_of_isWord ((Identifier.isWord_iff _).mpr safe.shape) c member]
    · right
      rw [same]
      simp [Identifier.spellQuoted, Lexer.opening_not_nameChar]
  induction parts with
  | nil => exact .inl rfl
  | cons first rest ih =>
    cases rest with
    | nil =>
      rw [Identifier.spell_singleton]
      exact part first
    | cons next others =>
      rw [Identifier.spell_cons_cons, List.find?_append]
      rcases part first with clean | quoted
      · rw [clean]
        exact ih
      · rw [quoted]
        exact .inr rfl

/-- A list of columns is never taken for a count. -/
theorem listing_ne_count (dialect : Dialect) (table : String) (others : List String) (x y : String) :
    ", ".intercalate ((table :: others).map fun table => dialect.quote table ++ ".*") ++ (" FROM " ++ x) ≠
      "COUNT(*)" ++ y := by
  -- the first character that no name has is a quote, a comma or a blank on the left, and a
  -- bracket on the right
  obtain ⟨c, rest, behind, mark⟩ : ∃ c rest,
      ", ".intercalate ((table :: others).map fun table => dialect.quote table ++ ".*") ++ (" FROM " ++ x) =
        dialect.quote table ++ ".*" ++ String.ofList (c :: rest) ∧ (c = ',' ∨ c = ' ') := by
    cases others with
    | nil =>
      refine ⟨' ', ("FROM " ++ x).toList, ?_, .inr rfl⟩
      apply String.toList_injective
      simp
    | cons next others =>
      refine ⟨',', (" " ++ ", ".intercalate ((next :: others).map fun table => dialect.quote table ++ ".*")
        ++ " FROM " ++ x).toList, ?_, .inl rfl⟩
      apply String.toList_injective
      simp [String.intercalate_cons_cons]
  have first : (c :: rest).find? (fun c => !Lexer.isNameChar c) = some c := by
    rcases mark with rfl | rfl <;> rfl
  rw [behind]
  intro same
  have found := congrArg (fun text : String => text.toList.find? fun c => !Lexer.isNameChar c) same
  simp only [String.toList_append, Identifier.toList_quote, List.find?_append, String.toList_ofList, first] at found
  rw [show ("COUNT(*)".toList.find? fun c => !Lexer.isNameChar c) = some '(' from by decide,
    show (".*".toList.find? fun c => !Lexer.isNameChar c) = none from by decide] at found
  rcases find?_spell dialect (Identifier.parse table.toList) with clean | quoted
  · rw [clean] at found
    rcases mark with rfl | rfl <;> simp at found
  · rw [quoted] at found
    cases dialect <;> simp [Dialect.quoting] at found

/-- The plain query is the whole one exactly when nothing refines it and it is no count of
    its rows. -/
theorem toText_unrefined_eq_iff {d : Draft} (sources : d.tables.length = d.joins.length + 1) (query : d.IsQuery) :
    d.unrefined.queryCommand.toText = d.queryCommand.toText ↔
      d.Unrefined ∧ (d.operation = .select ∨ d.selection ≠ []) := by
  by_cases listed : d.operation = .select ∨ d.selection ≠ []
  · have selection : d.unrefined.selectionSql = d.selectionSql := by
      rcases listed with select | some
      · simp [selectionSql, sourceTables, unrefined, select]
      · simp [selectionSql, unrefined, some]
    rw [toText_unrefined, toText_queryCommand, selection, ← trailing_refinements_eq_empty_iff]
    rw [eq_append_self_iff]
    simp [listed]
  · obtain ⟨noSelect, nothing⟩ := not_or.mp listed
    have count : d.operation = .count := query.resolve_left noSelect
    have empty : d.selection = [] := Classical.not_not.mp nothing
    have rows : d.selectionSql.toText = "COUNT(*)" := by simp [selectionSql, count, empty]
    obtain ⟨table, others, tables⟩ : ∃ table others, d.unrefined.sourceTables = table :: others := by
      cases tables : d.tables with
      | nil => simp [tables] at sources
      | cons own rest =>
        exact ⟨own, rest.take d.joins.length, by simp [sourceTables, unrefined, tables, Nat.add_comm 1]⟩
    refine iff_of_false ?_ fun both => listed both.2
    rw [toText_unrefined, toText_queryCommand, rows, toText_selectionSql (d := d.unrefined) (by simp [unrefined]) empty,
      tables]
    intro same
    simp only [String.append_assoc, String.append_right_inj] at same
    exact listing_ne_count d.dialect table others _ _ same

end Draft

/-! ## (2) Programs that select -/

namespace Step

def inserts : Step → Bool
  | .insertInto .. => true
  | _ => false

end Step

namespace Draft

structure Selecting (dialect : Dialect) (d : Draft) : Prop where
  dialect : d.dialect = dialect
  query : d.IsQuery
  sources : d.tables.length = d.joins.length + 1

theorem Selecting.joined {dialect : Dialect} {more : List String} {silent : Bool} {d d' : Draft}
    (h : Selecting dialect d) (joined : Joined more silent d d') : Selecting dialect d' := by
  refine ⟨joined.dialect.trans h.dialect, ?_, ?_⟩
  · rw [IsQuery, joined.operation]
    exact h.query
  · have joins : d'.joins.length = d.joins.length + more.length := by
      simpa using congrArg List.length joined.joins
    rw [joined.tables, List.length_append, h.sources, joins]
    omega

end Draft

namespace Step

open Drafting Draft

theorem run_selecting (entity : Entity) {s : Step} (selects : s.inserts = false) {dialect : Dialect} {d d' : Draft}
    (h : Selecting dialect d) (gave : Gives (run entity s) d () d') : Selecting dialect d' := by
  by_cases keeps : s.keepsOperation = true
  · exact h.joined (run_joined entity keeps gave)
  · cases s with
    | selectCount key =>
      obtain ⟨added, rfl⟩ := gives_selectFunction (gives_modify_then.mp gave)
      exact ⟨h.dialect, .inr rfl, h.sources⟩
    | insertInto target columns => cases selects
    | _ => exact absurd rfl keeps

theorem runAll_selecting (entity : Entity) {program : List Step} (selects : ∀ s ∈ program, s.inserts = false)
    {dialect : Dialect} {d d' : Draft} (h : Selecting dialect d) (gave : Gives (runAll entity program) d () d') :
    Selecting dialect d' := by
  induction program generalizing d with
  | nil =>
    obtain ⟨-, rfl⟩ := gives_pure.mp gave
    exact h
  | cons s rest ih =>
    obtain ⟨⟨⟩, d₁, first, others⟩ := gives_bind.mp gave
    exact ih (fun other member => selects other (by simp [member]))
      (run_selecting entity (selects s (by simp)) h first) others

end Step

/-! ## (3) Queries made the source of an INSERT -/

namespace Query

open Drafting Draft Step

theorem selecting_of_run {dialect : Dialect} {stem : String} {entity : Entity} {operation : Operation} {start : Nat}
    {program : List Step} {begun q : Query}
    (started : Query.start ⟨some dialect, stem⟩ entity operation start = .ok begun)
    (query : operation = .select ∨ operation = .count) (selects : ∀ s ∈ program, s.inserts = false)
    (ran : begun.run program = .ok q) : Selecting dialect q.draft := by
  obtain rfl := Except.ok.inj started
  obtain ⟨d, gave, rfl⟩ := run_eq_ok.mp ran
  have begins : Selecting dialect ((((onTable dialect entity.table).withStem stem).numberedFrom start).withOperation
      operation) := ⟨rfl, query, rfl⟩
  exact runAll_selecting _ selects begins gave

/-- A query becomes the source of an INSERT whenever the columns are a projection. The text
    is the head of the INSERT and the plain query, and all of the query is there exactly
    when nothing groups, orders or limits its rows and it is no count without columns; the
    parameters stay in any case. -/
theorem insert_copies_plain_query {dialect : Dialect} {stem : String} {entity : Entity} {operation : Operation}
    {start : Nat} {program : List Step} {begun q : Query} (target : Entity) {columns : Expr}
    {projection : List Projected}
    (started : Query.start ⟨some dialect, stem⟩ entity operation start = .ok begun)
    (query : operation = .select ∨ operation = .count) (selects : ∀ s ∈ program, s.inserts = false)
    (ran : begun.run program = .ok q) (projected : Projected.ofExpr columns = .ok projection) :
    let head := "INSERT INTO " ++ dialect.quote target.table ++ " ("
      ++ dialect.columnList (filledColumns target projection) ++ ") "
    ∃ q' sql plain, q.step (.insertInto target columns) = .ok q' ∧
      q.draft.commandText = .ok sql ∧ q.draft.unrefined.commandText = .ok plain ∧
      q'.draft.commandText = .ok (head ++ plain) ∧ q'.draft.parameters = q.draft.parameters ∧
      (q'.draft.commandText = .ok (head ++ sql) ↔
        q.draft.Unrefined ∧ (q.draft.operation = .select ∨ q.draft.selection ≠ [])) := by
  intro head
  have selecting := selecting_of_run started query selects ran
  have text := commandText_insertInto selecting.sources target.table (filledColumns target projection)
  rw [selecting.dialect] at text
  let copied := q.draft.insertInto target.table (filledColumns target projection)
  have inserted : q.step (.insertInto target columns) = .ok ⟨q.entity, copied⟩ := by
    refine step_eq_ok.mpr ⟨copied, ?_, rfl⟩
    simp only [Step.run, gives_bind, gives_projectionOf, gives_modify]
    exact ⟨projection, _, ⟨projected, rfl⟩, rfl⟩
  have plain : q.draft.unrefined.commandText = .ok q.draft.unrefined.queryCommand.toText := rfl
  have whole : q.draft.commandText = .ok q.draft.queryCommand.toText := by
    rw [commandText, selecting.query.command]
    rfl
  refine ⟨⟨q.entity, copied⟩, _, _, inserted, whole, plain, text, rfl, ?_⟩
  rw [← toText_unrefined_eq_iff selecting.sources selecting.query]
  constructor
  · intro same
    exact (String.append_right_inj head).mp (Except.ok.inj (text.symm.trans same))
  · intro same
    rw [← same]
    exact text

/-- Users with a condition and a join: all of the query is copied. -/
theorem insert_copies_plain_query_filtered :
    let users : Entity := ⟨"User", "Users", [("id", "Id")]⟩
    let groups : Entity := ⟨"UserGroup", "UserGroups", []⟩
    let log : Entity := ⟨"Log", "audit.event_log", [("message", "MESSAGE")]⟩
    let program : List Step :=
      [.join .inner groups (.binary .equal (.field users "id") (.field groups "Id")),
       .filterIn (.field users "id") true [.int 1, .int 2]]
    ∃ begun q q' sql, Query.start ⟨some .sqlite, "Param"⟩ users .select 0 = .ok begun ∧
      begun.run program = .ok q ∧ q.draft.commandText = .ok sql ∧
      q.step (.insertInto log (.field log "message")) = .ok q' ∧
      q'.draft.commandText = .ok ("INSERT INTO audit.event_log (MESSAGE) " ++ sql) := by
  intro users groups log program
  let begun : Query := ⟨users, (Draft.onTable .sqlite "Users").withStem "Param"⟩
  have started : Query.start ⟨some .sqlite, "Param"⟩ users .select 0 = .ok begun := rfl
  have clauses : (begun.run program).toOption.map (fun q => q.draft.grouping.isEmpty && q.draft.groupTests.isEmpty &&
      q.draft.ordering.isEmpty && q.draft.pageSize.isNone && q.draft.offset == 0 &&
      decide (q.draft.operation = .select)) = some true := by
    decide +kernel
  obtain ⟨q, found, parts⟩ := Option.map_eq_some_iff.mp clauses
  have ran := eq_ok_of_toOption found
  simp only [Bool.and_eq_true, List.isEmpty_iff, Option.isNone_iff_eq_none, beq_iff_eq, decide_eq_true_eq] at parts
  obtain ⟨⟨⟨⟨⟨grouping, groupTests⟩, ordering⟩, pageSize⟩, offset⟩, operation⟩ := parts
  obtain ⟨q', sql, -, inserted, text, -, -, -, whole⟩ :=
    insert_copies_plain_query log started (.inl rfl) (by simp [program, inserts]) ran
      (show Projected.ofExpr (.field log "message") = .ok [.column ⟨log.table, "MESSAGE"⟩ none] from rfl)
  have copied := whole.mpr ⟨⟨grouping, groupTests, ordering, pageSize, offset⟩, .inl operation⟩
  refine ⟨begun, q, q', sql, started, ran, text, inserted, ?_⟩
  rw [copied]
  have head : "INSERT INTO " ++ Dialect.sqlite.quote log.table ++ " (" ++ Dialect.sqlite.columnList
      (filledColumns log [.column ⟨log.table, "MESSAGE"⟩ none]) ++ ") " = "INSERT INTO audit.event_log (MESSAGE) " := by
    decide +kernel
  rw [head]

/-- The roles with more than two users, five of them: the INSERT copies the role of every
    user, and a parameter is left that the text does not show. -/
theorem insert_leaves_out_refinements :
    let users : Entity := ⟨"User", "Users", [("id", "Id"), ("role", "Role")]⟩
    let log : Entity := ⟨"Log", "audit.event_log", [("message", "MESSAGE")]⟩
    let program : List Step :=
      [.select (.field users "role"), .groupBy (.field users "role"),
       .having "COUNT" (.field users "id") .greater (.int 2), .orderBy (.field users "role") false, .take 5]
    let sql := "SELECT Users.Role FROM Users GROUP BY Users.Role HAVING COUNT(Users.Id) > @Param1 "
      ++ "ORDER BY Users.Role LIMIT 5"
    ∃ begun q q', Query.start ⟨some .sqlite, "Param"⟩ users .select 0 = .ok begun ∧ begun.run program = .ok q ∧
      q.draft.commandText = .ok sql ∧ q.step (.insertInto log (.field log "message")) = .ok q' ∧
      q'.draft.commandText = .ok "INSERT INTO audit.event_log (MESSAGE) SELECT Users.Role FROM Users" ∧
      q'.draft.commandText ≠ .ok ("INSERT INTO audit.event_log (MESSAGE) " ++ sql) ∧
      q'.draft.parameters.names = ["Param1"] := by
  intro users log program sql
  let begun : Query := ⟨users, (Draft.onTable .sqlite "Users").withStem "Param"⟩
  have answers : (begun.run program).toOption.bind (fun q =>
      (q.step (.insertInto log (.field log "message"))).toOption.map fun q' =>
        (q.draft.commandText.toOption, q'.draft.commandText.toOption, q'.draft.parameters.names)) =
      some (some sql, some "INSERT INTO audit.event_log (MESSAGE) SELECT Users.Role FROM Users", ["Param1"]) := by
    decide +kernel
  obtain ⟨q, ran, rest⟩ := Option.bind_eq_some_iff.mp answers
  obtain ⟨q', stepped, texts⟩ := Option.map_eq_some_iff.mp rest
  simp only [Prod.mk.injEq] at texts
  obtain ⟨whole, copied, names⟩ := texts
  have text := eq_ok_of_toOption copied
  refine ⟨begun, q, q', rfl, eq_ok_of_toOption ran, eq_ok_of_toOption whole, eq_ok_of_toOption stepped, text, ?_, names⟩
  intro same
  exact absurd (Except.ok.inj (text.symm.trans same)) (by decide)

end Query

end Querycraft
