/-
  Querycraft.Draft.Command — the statement a draft stands for.

  A query without a selection selects every column of its tables, or counts its rows.
  An INSERT needs a row and an UPDATE an assignment. The text of an INSERT from a SELECT
  has the selection, the source and the condition, and nothing behind them.
-/

import Querycraft.Dialect.Layout
import Querycraft.Draft.Basic

namespace Querycraft.Draft

def conditionSql (d : Draft) : Sql := Sql.concat (d.conditions.map (Fragment.sql d.dialect))

def whereClause (d : Draft) : Sql :=
  if d.hasConditions then ("WHERE " : Sql) ++ d.conditionSql else .empty

/-- The tables rows come from: the command's own and one for each join. -/
def sourceTables (d : Draft) : List String := d.tables.take (1 + d.joins.length)

def source (d : Draft) : Sql :=
  Sql.join " " (Sql.text (d.dialect.quote d.table) :: d.joins.map (Join.sql d.dialect))

def selectionSql (d : Draft) : Sql :=
  if !d.selection.isEmpty then Sql.join ", " (d.selection.map (Selected.sql d.dialect))
  else if d.operation = .count then "COUNT(*)"
  else Sql.join ", " (d.sourceTables.map fun table => (Selected.table table).sql d.dialect)

def listClause (keyword separator : String) (entries : List Sql) : Sql :=
  if entries.isEmpty then .empty else Sql.text (keyword ++ " ") ++ Sql.join separator entries

def queryCommand (d : Draft) : Sql :=
  d.dialect.queryText {
    selection := d.selectionSql
    source := d.source
    conditions := d.whereClause
    grouping := listClause "GROUP BY" ", " (d.grouping.map (Fragment.columnText d.dialect))
    having := listClause "HAVING" " AND " (d.groupTests.map (GroupTest.sql d.dialect))
    order := listClause "ORDER BY" ", " (d.ordering.map (SortKey.sql d.dialect))
    pageSize := d.pageSize
    offset := d.offset }

/-- The table an INSERT writes to: the command's own, or the last one added when rows
    come from a SELECT. -/
def insertTarget (d : Draft) : Except Error String :=
  match d.operation with
  | .insert => .ok (d.dialect.quote d.table)
  | .insertFrom => .ok (d.dialect.quote (d.tables.getLast?.getD ""))
  | operation => .error (.targetUnavailable operation)

def command (d : Draft) : Except Error Sql :=
  match d.operation with
  | .select | .count => .ok d.queryCommand
  | .insert =>
    if d.rows.isEmpty then .error .noRows
    else do
      let target ← d.insertTarget
      let rows := d.rows.map fun row => row.map fun (column, value) => (column, Sql.slot value)
      return d.dialect.insertText (Sql.text target) rows d.output
  | .insertFrom => do
    let target ← d.insertTarget
    return d.dialect.insertFromText (Sql.text target) d.filled d.selectionSql d.source d.whereClause
  | .update =>
    if d.assignments.isEmpty then .error .noAssignments
    else
      .ok (Dialect.updateText (Sql.join ", " (d.assignments.map (Assignment.sql d.dialect)))
        d.source d.whereClause)
  | .delete => .ok (Dialect.deleteText d.source d.whereClause)
  | .condition => .ok d.conditionSql

def commandText (d : Draft) : Except Error String := d.command.map Sql.toText

def conditionText (d : Draft) : String := d.conditionSql.toText

/-- The WHERE clause of a query; other commands do not give it out. -/
def whereText (d : Draft) : Except Error String :=
  match d.operation with
  | .select | .count => .ok d.whereClause.toText
  | operation => .error (.conditionUnavailable operation)

end Querycraft.Draft
