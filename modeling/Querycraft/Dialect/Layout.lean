/-
  Querycraft.Dialect.Layout — whole statements, laid out from their clauses.

  The clauses arrive as finished text. What is the dialect's own here is how rows are
  limited and how an INSERT returns columns; an order that a dialect insists on before
  it limits rows is supplied when the query has none.
-/

import Querycraft.Dialect.Basic

namespace Querycraft.Dialect

/-- The clause that skips `offset` rows and keeps at most `size`; none where every row
    is kept. -/
def pagination (dialect : Dialect) (size : Option UInt64) (offset : UInt64) : Option String :=
  let skipped := toString offset.toNat
  match dialect, size with
  | .mysql, none => if offset = 0 then none else some ("LIMIT " ++ skipped ++ ", 18446744073709551615")
  | .mysql, some n =>
    some (if offset = 0 then "LIMIT " ++ toString n.toNat
      else "LIMIT " ++ skipped ++ ", " ++ toString n.toNat)
  | .postgres, none => if offset = 0 then none else some ("OFFSET " ++ skipped)
  | .postgres, some n =>
    some (if offset = 0 then "LIMIT " ++ toString n.toNat
      else "LIMIT " ++ toString n.toNat ++ " OFFSET " ++ skipped)
  | .sqlserver, none => if offset = 0 then none else some ("OFFSET " ++ skipped ++ " ROWS")
  | .sqlserver, some n =>
    some ("OFFSET " ++ skipped ++ " ROWS FETCH NEXT " ++ toString n.toNat ++ " ROWS ONLY")
  | .sqlite, none => if offset = 0 then none else some ("LIMIT -1 OFFSET " ++ skipped)
  | .sqlite, some n =>
    some (if offset = 0 then "LIMIT " ++ toString n.toNat
      else "LIMIT " ++ skipped ++ ", " ++ toString n.toNat)

/-- The clauses of a SELECT, each with its keyword and blank where the query has none. -/
structure QueryClauses where
  selection : Sql := .empty
  source : Sql := .empty
  conditions : Sql := .empty
  grouping : Sql := .empty
  having : Sql := .empty
  order : Sql := .empty
  pageSize : Option UInt64 := none
  offset : UInt64 := 0

/-- The ORDER BY clause: a dialect that limits rows only in an ordered query gets one
    that orders nothing. -/
def orderClause (dialect : Dialect) (parts : QueryClauses) : Sql :=
  match dialect, dialect.pagination parts.pageSize parts.offset with
  | .sqlserver, some _ => if parts.order.isBlank then "ORDER BY (SELECT NULL)" else parts.order
  | _, _ => parts.order

def queryText (dialect : Dialect) (parts : QueryClauses) : Sql :=
  Sql.clauses
    [("SELECT " : Sql) ++ parts.selection ++ " FROM " ++ parts.source,
      parts.conditions,
      parts.grouping,
      parts.having,
      dialect.orderClause parts,
      Sql.text ((dialect.pagination parts.pageSize parts.offset).getD "")]

def columnList (dialect : Dialect) (columns : List String) : String :=
  ", ".intercalate (columns.map dialect.quote)

/-- `INSERT INTO table (columns) [output] VALUES (…), (…)`; the columns are those of
    the first row. -/
def valuesText (dialect : Dialect) (table : Sql) (rows : List (List (String × Sql)))
    (output : Option String) : Sql :=
  let columns := dialect.columnList ((rows.head?.getD []).map Prod.fst)
  let tuples := rows.map fun row => ("(" : Sql) ++ Sql.join ", " (row.map Prod.snd) ++ ")"
  ("INSERT INTO " : Sql) ++ table ++ Sql.text (" (" ++ columns ++ ")")
    ++ Sql.text (match output with | some clause => " " ++ clause | none => "")
    ++ " VALUES " ++ Sql.join ", " tuples

def insertText (dialect : Dialect) (table : Sql) (rows : List (List (String × Sql)))
    (output : List String) : Sql :=
  if output.isEmpty then dialect.valuesText table rows none
  else match dialect with
    | .mysql => dialect.valuesText table rows none ++ "; SELECT LAST_INSERT_ID()"
    | .postgres | .sqlite =>
      dialect.valuesText table rows none ++ Sql.text (" RETURNING " ++ dialect.columnList output)
    | .sqlserver =>
      let inserted := output.map fun column => "INSERTED." ++ dialect.quote column
      dialect.valuesText table rows (some ("OUTPUT " ++ ", ".intercalate inserted))

def insertFromText (dialect : Dialect) (target : Sql) (columns : List String)
    (selection source conditions : Sql) : Sql :=
  Sql.clauses
    [("INSERT INTO " : Sql) ++ target ++ Sql.text (" (" ++ dialect.columnList columns ++ ") SELECT ")
        ++ selection ++ " FROM " ++ source,
      conditions]

def updateText (assignments source conditions : Sql) : Sql :=
  Sql.clauses [("UPDATE " : Sql) ++ source ++ " SET " ++ assignments, conditions]

def deleteText (source conditions : Sql) : Sql :=
  Sql.clauses [("DELETE FROM " : Sql) ++ source, conditions]

end Querycraft.Dialect
