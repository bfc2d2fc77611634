/-
  Querycraft.Fragment — the pieces a condition is put together from.

  A fragment holds its operands by a type of the reader's choice: values while a
  condition is thought out, placeholders once they are bound. `operands` lists them from
  left to right, `mapM` exchanges them in that order, and `sql` is the text of a
  fragment whose operands are bound. Fragments of a condition follow one another without
  anything between them.
-/

import Querycraft.Dialect.Basic
import Querycraft.Entity

namespace Querycraft

inductive Fragment (α : Type) where
  | opening
  | closing
  | negation
  | conjunction
  | disjunction
  /-- An operator between two operands that are fragments of their own. -/
  | operator (op : Operator)
  | column (column : Column)
  | operand (value : α)
  | compare (column : Column) (op : Operator) (value : α)
  | compareColumns (left : Column) (op : Operator) (right : Column)
  | like (column : Column) (pattern : α)
  | nullTest (column : Column) (negated : Bool)
  | inList (column : Column) (negated : Bool) (values : List α)
  | inQuery (column : Column) (negated : Bool) (query : Sql)
  | between (column : Column) (negated : Bool) (low high : α)
  /-- Text taken as it is. -/
  | verbatim (sql : Sql)

namespace Fragment

def operands : Fragment α → List α
  | .operand value => [value]
  | .compare _ _ value => [value]
  | .like _ pattern => [pattern]
  | .inList _ _ values => values
  | .between _ _ low high => [low, high]
  | _ => []

def mapM [Monad m] (f : α → m β) : Fragment α → m (Fragment β)
  | .opening => return .opening
  | .closing => return .closing
  | .negation => return .negation
  | .conjunction => return .conjunction
  | .disjunction => return .disjunction
  | .operator op => return .operator op
  | .column c => return .column c
  | .operand value => return .operand (← f value)
  | .compare c op value => return .compare c op (← f value)
  | .compareColumns left op right => return .compareColumns left op right
  | .like c pattern => return .like c (← f pattern)
  | .nullTest c negated => return .nullTest c negated
  | .inList c negated values => return .inList c negated (← values.mapM f)
  | .inQuery c negated query => return .inQuery c negated query
  | .between c negated low high => do
    let low ← f low
    let high ← f high
    return .between c negated low high
  | .verbatim sql => return .verbatim sql

def columnText (dialect : Dialect) (column : Column) : Sql :=
  Sql.text (dialect.field column.table column.name)

/-- The text of a fragment. A list without members holds nothing, and its opposite
    everything. -/
def sql (dialect : Dialect) : Fragment Placeholder → Sql
  | .opening => "("
  | .closing => ")"
  | .negation => "NOT "
  | .conjunction => " AND "
  | .disjunction => " OR "
  | .operator op => Sql.text (" " ++ op.symbol ++ " ")
  | .column c => columnText dialect c
  | .operand value => value
  | .compare c op value =>
    columnText dialect c ++ Sql.text (" " ++ op.symbol ++ " ") ++ value
  | .compareColumns left op right =>
    columnText dialect left ++ Sql.text (" " ++ op.symbol ++ " ") ++ columnText dialect right
  | .like c pattern => columnText dialect c ++ " LIKE " ++ pattern
  | .nullTest c negated =>
    columnText dialect c ++ if negated then " IS NOT NULL" else " IS NULL"
  | .inList _ negated [] => if negated then "1=1" else "1=0"
  | .inList c negated values =>
    columnText dialect c ++ (if negated then " NOT IN (" else " IN (")
      ++ Sql.join "," (values.map Sql.slot) ++ ")"
  | .inQuery c negated query =>
    columnText dialect c ++ (if negated then " NOT IN (" else " IN (") ++ query ++ ")"
  | .between c negated low high =>
    ("(" : Sql) ++ columnText dialect c ++ (if negated then " NOT BETWEEN " else " BETWEEN ")
      ++ low ++ " AND " ++ high ++ ")"
  | .verbatim sql => sql

end Fragment

end Querycraft
