/-
  Querycraft.Proofs.Usage — every parameter of a query is used once.

  A query is a SELECT or a COUNT put together from conditions, sub-queries, joins, group
  tests, projections and pages (`Step.asks`); templates and the steps that write are left
  out. What such a program binds it also shows, wherever the text ends up: in a join, in
  the condition, behind HAVING, or inside the text of a sub-query. Proved:
  (1) the command of a query shows the placeholders of its joins, its condition and its
      group tests, and drops none of them (`Draft.slots_queryCommand`);
  (2) a step leaves the placeholders shown so far, and adds those of the values that it
      carries, each once (`Step.run_asks`), and so does every program (`Step.runAll_asks`);
  (3) so the command splices the placeholder of every parameter once, and no other
      (`Query.parameters_used_once`).
-/

import Querycraft.Proofs.Numbering

namespace Querycraft

/-- The placeholders of the parameters, by name and by position, when so many positions
    come before the first. -/
def Parameters.placeholders (p : Parameters) (dialect : Dialect) (before : Nat) : List Placeholder :=
  (p.names.zipIdx (before + 1)).map fun (name, position) => dialect.placeholder name position

/-! ## (1) What a query shows -/

theorem Dialect.parameter_ne_empty (dialect : Dialect) (name : String) (position : Nat) :
    dialect.parameter name position ≠ "" := by
  cases dialect <;> simp [parameter]

namespace Sql

/-- A text that shows nothing shows nothing for its placeholders. -/
theorem text_eq_empty_of_isBlank {sql : Sql} (h : sql.isBlank = true) {p : Placeholder} (member : p ∈ sql.slots) :
    p.text = "" := by
  have nothing : ∀ piece ∈ sql.pieces, piece.toText.toList = [] := by
    simpa [isBlank, toText, ← String.toList_eq_nil_iff, String.toList_join, List.flatMap_eq_nil_iff] using h
  obtain ⟨piece, among, found⟩ := List.mem_filterMap.mp member
  cases piece with
  | text words => cases found
  | slot q =>
    cases found
    exact String.toList_eq_nil_iff.mp (nothing _ among)

/-- Clauses whose placeholders show something are laid out without a loss. -/
theorem slots_clauses {parts : List Sql} (visible : ∀ part ∈ parts, ∀ p ∈ part.slots, p.text ≠ "") :
    (clauses parts).slots = parts.flatMap slots := by
  rw [clauses, slots_join]
  induction parts with
  | nil => rfl
  | cons part rest ih =>
    have others := ih fun other member => visible other (by simp [member])
    rw [List.flatMap_cons, ← others]
    cases blank : part.isBlank with
    | false => simp [blank]
    | true =>
      have none : part.slots = [] := by
        rw [List.eq_nil_iff_forall_not_mem]
        intro p member
        exact visible part (by simp) p member (text_eq_empty_of_isBlank blank member)
      simp [blank, none]

end Sql

/-- A query shows the placeholders of its clauses, of which those of an order are none. -/
theorem Dialect.slots_queryText (dialect : Dialect) {parts : QueryClauses} (order : parts.order.slots = [])
    (visible : ∀ p ∈ parts.selection.slots ++ parts.source.slots ++ parts.conditions.slots
      ++ parts.grouping.slots ++ parts.having.slots, p.text ≠ "") :
    (dialect.queryText parts).slots = parts.selection.slots ++ parts.source.slots ++ parts.conditions.slots
      ++ parts.grouping.slots ++ parts.having.slots := by
  have ordering := Draft.slots_orderClause dialect parts order
  have whole : [("SELECT " : Sql) ++ parts.selection ++ " FROM " ++ parts.source, parts.conditions, parts.grouping,
        parts.having, dialect.orderClause parts,
        Sql.text ((dialect.pagination parts.pageSize parts.offset).getD "")].flatMap Sql.slots =
      parts.selection.slots ++ parts.source.slots ++ parts.conditions.slots ++ parts.grouping.slots
        ++ parts.having.slots := by
    simp [ordering]
  rw [queryText, Sql.slots_clauses, whole]
  intro part member p shown
  exact visible p (whole ▸ List.mem_flatMap.mpr ⟨part, member, shown⟩)

namespace Draft

def asked (d : Draft) : List Placeholder :=
  d.joins.flatMap (·.on.slots) ++ d.conditions.flatMap Fragment.slots ++ d.groupTests.map GroupTest.value

/-- (1) A query shows the placeholders of its joins, its condition and its group tests. -/
theorem slots_queryCommand {d : Draft} (visible : ∀ p ∈ d.asked, p.text ≠ "") : d.queryCommand.slots = d.asked := by
  have grouping : (listClause "GROUP BY" ", " (d.grouping.map (Fragment.columnText d.dialect))).slots = [] := by
    simp [slots_listClause, List.flatMap_map, Fragment.columnText]
  have having : (listClause "HAVING" " AND " (d.groupTests.map (GroupTest.sql d.dialect))).slots =
      d.groupTests.map GroupTest.value := by
    rw [slots_listClause, List.flatMap_map, List.map_eq_flatMap]
    rfl
  have ordering : (listClause "ORDER BY" ", " (d.ordering.map (SortKey.sql d.dialect))).slots = [] := by
    simp [slots_listClause, List.flatMap_map]
  have clauses : d.selectionSql.slots ++ d.source.slots ++ d.whereClause.slots
      ++ (listClause "GROUP BY" ", " (d.grouping.map (Fragment.columnText d.dialect))).slots
      ++ (listClause "HAVING" " AND " (d.groupTests.map (GroupTest.sql d.dialect))).slots = d.asked := by
    simp only [slots_selectionSql, slots_source, slots_whereClause, grouping, having, List.nil_append,
      List.append_nil, asked]
  rw [queryCommand, Dialect.slots_queryText]
  · exact clauses
  · exact ordering
  · exact clauses ▸ visible

/-! ## (2) Steps of a query -/

open Drafting

def IsQuery (d : Draft) : Prop := d.operation = .select ∨ d.operation = .count

theorem IsQuery.command {d : Draft} (h : d.IsQuery) : d.command = .ok d.queryCommand := by
  unfold Draft.command
  rcases h with select | count
  · rw [select]
  · rw [count]

/-- A draft that took on exactly these values. It is a query if the earlier draft was, and
    shows what that showed, and the placeholder of each of the values once. -/
structure Asks (values : List Value) (d d' : Draft) : Prop extends Binds values d d' where
  query : d.IsQuery → d'.IsQuery
  shown : d'.asked.Perm (d.asked ++ d.upcoming values.length)

theorem Asks.trans {first second : List Value} {d d' d'' : Draft} (h : Asks first d d')
    (h' : Asks second d' d'') : Asks (first ++ second) d d'' := by
  refine ⟨h.toBinds.trans h'.toBinds, fun query => h'.query (h.query query), ?_⟩
  rw [List.length_append, h.upcoming_append, ← List.append_assoc]
  exact h'.shown.trans (h.shown.append_right _)

/-- A change to clauses of a query that show no placeholder. -/
theorem asks_nothing {d d' : Draft} (binds : Binds [] d d') (query : d.IsQuery → d'.IsQuery)
    (joins : d'.joins = d.joins) (conditions : d'.conditions = d.conditions)
    (groupTests : d'.groupTests = d.groupTests) : Asks [] d d' := by
  refine ⟨binds, query, ?_⟩
  rw [asked, joins, conditions, groupTests]
  exact .of_eq (List.append_nil _).symm

section Extended

variable {d : Draft} {values : List Value}

theorem asks_conditions {new : List (Fragment Placeholder)}
    (h : (new.flatMap Fragment.slots).Perm (d.upcoming values.length)) :
    Asks values d { d.bindValues values with conditions := d.conditions ++ new } := by
  refine ⟨⟨rfl, rfl, rfl, rfl, rfl⟩, id, ?_⟩
  simp only [asked, bindValues, List.flatMap_append, List.append_assoc]
  refine (List.Perm.append_left _ ?_).append_left _
  exact (h.append_right _).trans List.perm_append_comm

theorem asks_join {join : Join} {tables : List String} (h : join.on.slots.Perm (d.upcoming values.length)) :
    Asks values d { d.bindValues values with tables, joins := d.joins ++ [join] } := by
  refine ⟨⟨rfl, rfl, rfl, rfl, rfl⟩, id, ?_⟩
  simp only [asked, bindValues, List.flatMap_append, List.flatMap_singleton, List.append_assoc]
  refine List.Perm.append_left _ ?_
  rw [← List.append_assoc (d.conditions.flatMap Fragment.slots)]
  exact (h.append_right _).trans List.perm_append_comm

end Extended

theorem Writes.asks {values : List Value} {d d' : Draft} (h : Writes values d d') : Asks values d d' := by
  obtain ⟨new, rfl, -, slots⟩ := h
  exact asks_conditions (.of_eq slots)

theorem asks_having {function : String} {key : Expr} {op : Operator} {value : Value} {d d' : Draft}
    (h : Gives (having function key op value) d () d') : Asks [value] d d' := by
  obtain ⟨-, c, -, rfl⟩ := gives_having.mp h
  refine ⟨(splices_having h).toBinds, id, ?_⟩
  show (_ ++ _ ++ (d.groupTests ++ [_]).map GroupTest.value).Perm _
  rw [List.map_append, ← List.append_assoc]
  exact .refl _

theorem text_ne_empty_of_upcoming {d : Draft} {n : Nat} {p : Placeholder} (h : p ∈ d.upcoming n) : p.text ≠ "" := by
  obtain ⟨i, -, rfl⟩ := List.mem_map.mp h
  exact d.dialect.parameter_ne_empty _ _

theorem nodup_texts_upcoming {d : Draft} (h : d.base ≤ d.counter) (n : Nat) :
    ((d.upcoming n).map Placeholder.text).Nodup := by
  rw [upcoming, List.map_map, List.Nodup, List.pairwise_map]
  refine List.Pairwise.imp_of_mem ?_ (List.nodup_range' (s := d.counter + 1) (n := n))
  intro i j hi hj differ
  simp only [List.mem_range'_1] at hi hj
  exact d.placeholder_ne differ (by omega)

/-! ### Text written on the side -/

/-- A draft on the side shows, once each, the next placeholders of the draft it belongs to. -/
theorem Asks.aside {values : List Value} {table : String} {operation : Operation} {d sub : Draft}
    (h : Asks values (d.offshoot table operation) sub) : sub.asked.Perm (d.upcoming values.length) := h.shown

/-- The command of a query on the side shows what it asks. -/
theorem Asks.command_aside {values : List Value} {table : String} {d sub : Draft}
    (h : Asks values (d.offshoot table .select) sub) {sql : Sql} (command : sub.command = .ok sql) :
    sql.slots.Perm (d.upcoming values.length) := by
  have query : sub.IsQuery := h.query (.inl rfl)
  obtain rfl := Except.ok.inj (query.command.symm.trans command)
  rw [slots_queryCommand fun p shown => text_ne_empty_of_upcoming (h.aside.mem_iff.mp shown)]
  exact h.aside

theorem asks_joinOn {kind : JoinKind} {table : String} {on : Expr} {d d' : Draft}
    (h : Gives (joinOn kind table on) d () d') : Asks on.carried d d' := by
  obtain ⟨sub, d₁, written, adopted, rfl⟩ := gives_joinOn.mp h
  have writes := writes_predicate written
  obtain ⟨rfl, -⟩ := adopt_aside writes.adds adopted
  refine asks_join ?_
  obtain ⟨new, rfl, -, slots⟩ := writes
  rw [slots_conditionSql]
  exact .of_eq slots

theorem asks_keyInQuery {values : List Value} {table : String} {key : Expr} {negated : Bool} {d d' sub : Draft}
    (asks : Asks values (d.offshoot table .select) sub) (adds : Adds values (d.offshoot table .select) sub)
    (h : Gives (keyInQuery key negated sub) d () d') : Asks values d d' := by
  obtain ⟨c, sql, d₁, -, command, adopted, rfl⟩ := gives_keyInQuery.mp h
  obtain ⟨rfl, -⟩ := adopt_aside adds adopted
  rw [push_eq]
  refine asks_conditions ?_
  rw [List.flatMap_singleton]
  exact asks.command_aside command

end Draft

namespace Step

open Drafting Draft

mutual

/-- A step of a query: no template, and nothing that writes. -/
def asks : Step → Bool
  | .filterTemplate .. | .values _ | .value _ | .insertInto .. | .set _ => false
  | .filterInQuery _ _ _ program => asksAll program
  | _ => true

def asksAll : List Step → Bool
  | [] => true
  | step :: rest => step.asks && asksAll rest

end

mutual

/-- (2) A step of a query shows, once each, the placeholders of the values it carries. -/
theorem run_asks (entity : Entity) (s : Step) (asking : s.asks = true) {d d' : Draft}
    (h : Gives (run entity s) d () d') : Asks (carried entity s) d d' := by
  cases s with
  | filter e =>
    have second := gives_modify_then.mp h
    exact ((writes_conjoined d).trans (writes_predicate second)).asks
  | orFilter e =>
    have second := gives_modify_then.mp h
    exact ((writes_disjoined d).trans (writes_predicate second)).asks
  | filterTemplate template arguments => cases asking
  | filterIn key negated members =>
    have second := gives_modify_then.mp h
    exact ((writes_conjoined d).trans (writes_keyIn second)).asks
  | filterInQuery key negated other program =>
    simp only [run, gives_bind, gives_modify, exists_unit, gives_onOffshoot] at h
    obtain ⟨_, rfl, sub, _, ⟨inner, rfl⟩, second⟩ := h
    have inside := runAll_asks other program asking inner
    exact (writes_conjoined d).asks.trans (asks_keyInQuery inside (runAll_adds other program inner).1 second)
  | filterBetween key negated low high =>
    have second := gives_modify_then.mp h
    exact ((writes_conjoined d).trans (writes_keyBetween second)).asks
  | orFilterBetween key low high =>
    have second := gives_modify_then.mp h
    exact ((writes_disjoined d).trans (writes_keyBetween second)).asks
  | having function key op v => exact asks_having h
  | join kind other on => exact asks_joinOn h
  | select e =>
    obtain ⟨entries, -, rfl⟩ := gives_select.mp h
    rw [foldl_addSelected]
    exact asks_nothing ⟨rfl, rfl, rfl, rfl, rfl⟩ id rfl rfl rfl
  | selectCount key =>
    obtain ⟨added, rfl⟩ := gives_selectFunction (gives_modify_then.mp h)
    exact asks_nothing ⟨rfl, rfl, rfl, rfl, rfl⟩ (fun _ => .inr rfl) rfl rfl rfl
  | selectFunction function e =>
    obtain ⟨added, rfl⟩ := gives_selectFunction h
    exact asks_nothing ⟨rfl, rfl, rfl, rfl, rfl⟩ id rfl rfl rfl
  | orderBy key descending =>
    obtain ⟨c, -, rfl⟩ := gives_orderBy.mp h
    exact asks_nothing ⟨rfl, rfl, rfl, rfl, rfl⟩ id rfl rfl rfl
  | groupBy key =>
    obtain ⟨c, -, rfl⟩ := gives_groupBy.mp h
    exact asks_nothing ⟨rfl, rfl, rfl, rfl, rfl⟩ id rfl rfl rfl
  | take _ | skip _ | page _ _ =>
    obtain rfl := gives_modify.mp h
    exact asks_nothing ⟨rfl, rfl, rfl, rfl, rfl⟩ id rfl rfl rfl
  | output e =>
    simp only [run, gives_bind, gives_given, gives_modify] at h
    obtain ⟨columns, _, ⟨-, rfl⟩, rfl⟩ := h
    exact asks_nothing ⟨rfl, rfl, rfl, rfl, rfl⟩ id rfl rfl rfl
  | values _ | value _ | insertInto _ _ | set _ => cases asking
  | reject error => exact absurd h gives_throw

theorem runAll_asks (entity : Entity) (program : List Step) (asking : asksAll program = true) {d d' : Draft}
    (h : Gives (runAll entity program) d () d') : Asks (carriedAll entity program) d d' := by
  cases program with
  | nil =>
    obtain ⟨-, rfl⟩ := gives_pure.mp h
    exact asks_nothing (Binds.refl d) id rfl rfl rfl
  | cons s rest =>
    obtain ⟨⟨⟩, d₁, first, others⟩ := gives_bind.mp h
    simp only [asksAll, Bool.and_eq_true] at asking
    exact (run_asks entity s asking.1 first).trans (runAll_asks entity rest asking.2 others)

end

end Step

/-! ## (3) Programs of queries -/

namespace Query

open Draft

theorem placeholders_of_range (dialect : Dialect) (name : Nat → String) (n : Nat) {p : Parameters}
    (h : p.names = (List.range n).map name) :
    p.placeholders dialect 0 = (List.range n).map fun k => dialect.placeholder (name k) (k + 1) := by
  rw [Parameters.placeholders, h]
  apply List.ext_getElem
  · simp
  · intro k _ _
    simp [Nat.add_comm]

/-- (3) A program of query steps that ends without an error has a command, and the command
    splices the placeholder of every parameter once, and no other. No two of them read
    alike. -/
theorem parameters_used_once {dialect : Dialect} {stem : String} {entity : Entity} {operation : Operation}
    {start : Nat} {program : List Step} {begun q : Query} (query : operation = .select ∨ operation = .count)
    (asking : Step.asksAll program = true)
    (hs : Query.start ⟨some dialect, stem⟩ entity operation start = .ok begun)
    (h : begun.run program = .ok q) :
    ∃ sql, q.draft.command = .ok sql ∧ q.draft.commandText = .ok sql.toText ∧
      sql.slots.Perm (q.draft.parameters.placeholders dialect 0) ∧ (sql.slots.map Placeholder.text).Nodup := by
  have begins : begun.draft.IsQuery := by
    obtain rfl := Except.ok.inj hs
    exact query
  obtain ⟨rfl, fresh⟩ := start_unused hs
  obtain ⟨d, gave, rfl⟩ := run_eq_ok.mp h
  have asks := Step.runAll_asks begun.entity program asking gave
  have nothing : begun.draft.asked = [] := by
    have none := fresh.slots
    simp only [slots, List.append_eq_nil_iff] at none
    simp [asked, none]
  have shown : d.queryCommand.slots.Perm (begun.draft.upcoming (Step.carriedAll begun.entity program).length) := by
    have all := asks.shown
    rw [nothing, List.nil_append] at all
    rw [slots_queryCommand fun p member => text_ne_empty_of_upcoming (all.mem_iff.mp member)]
    exact all
  have held := placeholders_of_range dialect _ _ (names_of_unused fresh asks.toBinds)
  have command := (asks.query begins).command
  refine ⟨d.queryCommand, command, ?_, ?_, ?_⟩
  · show d.command.map Sql.toText = _
    rw [command]
    rfl
  · rw [held]
    exact shown.trans (.of_eq (upcoming_of_unused fresh _))
  · refine (shown.map Placeholder.text).nodup_iff.mpr (nodup_texts_upcoming ?_ _)
    exact Nat.le_of_eq (fresh.base.trans fresh.counter.symm)

/-- A value in a join that was bound after the condition before it, and a sub-query with a
    list and a group test of its own. -/
theorem parameters_used_once_nested :
    let users : Entity := ⟨"User", "users", []⟩
    let groups : Entity := ⟨"Group", "groups", []⟩
    let orders : Entity := ⟨"Order", "orders", []⟩
    let program : List Step :=
      [.filter (.binary .equal (.field users "name") (.constant (.text "root"))),
       .join .left groups (.binary .greater (.field groups "rank") (.constant (.int 3))),
       .filterInQuery (.field users "id") true orders
        [.select (.field orders "buyer"), .filterIn (.field orders "state") false [.text "open", .text "paid"],
         .groupBy (.field orders "buyer"), .having "SUM" (.field orders "price") .less (.int 10)],
       .page 2 5]
    ∃ begun q sql, Query.start ⟨some .postgres, "P"⟩ users .count 4 = .ok begun ∧ begun.run program = .ok q ∧
      q.draft.command = .ok sql ∧ sql.slots.map (·.text) = ["$2", "$1", "$3", "$4", "$5"] ∧
      q.draft.parameters.names = ["P5", "P6", "P7", "P8", "P9"] ∧
      sql.slots.Perm (q.draft.parameters.placeholders .postgres 0) := by
  intro users groups orders program
  let begun : Query :=
    ⟨users, (((Draft.onTable .postgres "users").withStem "P").numberedFrom 4).withOperation .count⟩
  have started : Query.start ⟨some .postgres, "P"⟩ users .count 4 = .ok begun := rfl
  have texts : (begun.run program).toOption.map (fun q =>
      (q.draft.command.toOption.map fun sql => sql.slots.map (·.text), q.draft.parameters.names)) =
      some (some ["$2", "$1", "$3", "$4", "$5"], ["P5", "P6", "P7", "P8", "P9"]) := by decide +kernel
  cases ran : begun.run program with
  | error e =>
    rw [ran] at texts
    cases texts
  | ok q =>
    obtain ⟨sql, command, -, once, -⟩ := parameters_used_once (.inr rfl) (by decide) started ran
    rw [ran] at texts
    simp only [Except.toOption, command, Option.map_some, Option.some.injEq, Prod.mk.injEq] at texts
    exact ⟨begun, q, sql, started, ran, command, texts.1, texts.2, once⟩

end Query

end Querycraft
