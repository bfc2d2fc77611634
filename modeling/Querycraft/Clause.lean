/-
  Querycraft.Clause — the entries of a command's clauses other than its condition.
-/

import Querycraft.Fragment
import Querycraft.Operation

namespace Querycraft

inductive Selected where
  /-- Every column of a table. -/
  | table (table : String)
  | column (column : Column) (label : Option String)
  | function (function : String) (column : Column) (label : Option String)
  deriving DecidableEq

structure SortKey where
  column : Column
  descending : Bool
  deriving DecidableEq

structure GroupTest where
  function : String
  column : Column
  op : Operator
  value : Placeholder
  deriving DecidableEq

/-- A joined table and the finished text of its condition. -/
structure Join where
  kind : JoinKind
  table : String
  on : Sql
  deriving DecidableEq

inductive Assignment where
  /-- Text taken as it is. -/
  | verbatim (sql : Sql)
  | set (column : String) (value : Placeholder)
  | replace (column : String) (old new : Placeholder)
  deriving DecidableEq

abbrev Row := List (String × Placeholder)

open Fragment (columnText)

private def labelled (dialect : Dialect) (label : Option String) (entry : Sql) : Sql :=
  match label with
  | some label => entry ++ Sql.text (" AS " ++ dialect.quote label)
  | none => entry

def Selected.sql (dialect : Dialect) : Selected → Sql
  | .table t => Sql.text (dialect.quote t ++ ".*")
  | .column c label => labelled dialect label (columnText dialect c)
  | .function f c label =>
    labelled dialect label (Sql.text (f ++ "(") ++ columnText dialect c ++ ")")

def SortKey.sql (dialect : Dialect) (key : SortKey) : Sql :=
  if key.descending then columnText dialect key.column ++ " DESC" else columnText dialect key.column

def GroupTest.sql (dialect : Dialect) (test : GroupTest) : Sql :=
  Sql.text (test.function ++ "(") ++ columnText dialect test.column
    ++ Sql.text (") " ++ test.op.symbol ++ " ") ++ test.value

def Join.sql (dialect : Dialect) (join : Join) : Sql :=
  Sql.text (join.kind.keyword ++ " " ++ dialect.quote join.table ++ " ON ") ++ join.on

def Assignment.sql (dialect : Dialect) : Assignment → Sql
  | .verbatim sql => sql
  | .set c value => Sql.text (dialect.quote c ++ " = ") ++ value
  | .replace c old new =>
    Sql.text (dialect.quote c ++ " = REPLACE(" ++ dialect.quote c ++ ", ") ++ old ++ ", " ++ new ++ ")"

end Querycraft
