/-
  Querycraft.Draft.Projection — selections, sort keys and groups from expressions.

  A projection is a row, for every column of its table, or a column, or a record of
  columns. An entry of a record is renamed when its name is not the column's.
-/

import Querycraft.Draft.Predicate

namespace Querycraft

inductive Projected where
  | table (table : String)
  | column (column : Column) (label : Option String)
  deriving DecidableEq

namespace Projected

/-- The columns of a record's entries, each with a name of its own if it needs one. -/
def ofEntries : List (String × Expr) → Except Error (List Projected)
  | [] => .ok []
  | (name, e) :: rest => do
    let c ← Column.ofExpr e
    let others ← ofEntries rest
    return .column c (if name = c.name then none else some name) :: others

def ofExpr : Expr → Except Error (List Projected)
  | .row entity => .ok [.table entity.table]
  | .record entries => ofEntries entries
  | e => do
    let c ← Column.ofExpr e
    return [.column c none]

def selected : Projected → Selected
  | .table t => .table t
  | .column c label => .column c label

end Projected

namespace Draft

def projectionOf (e : Expr) : Drafting (List Projected) :=
  match Projected.ofExpr e with
  | .ok entries => return entries
  | .error e => throw e

def select (e : Expr) : Drafting Unit := do
  let entries ← projectionOf e
  modify fun d => entries.foldl (fun d entry => d.addSelected entry.selected) d

def selectFunctionOf (function : String) : List Projected → Drafting Unit
  | [] => return ()
  | .table _ :: _ => throw (.functionOfRow function)
  | .column c label :: rest => do
    modify (addSelected (.function function c label))
    selectFunctionOf function rest

def selectFunction (function : String) (e : Expr) : Drafting Unit := do
  let entries ← projectionOf e
  selectFunctionOf function entries

def orderBy (key : Expr) (descending : Bool) : Drafting Unit := do
  let column ← columnOf key
  modify (addSortKey { column, descending })

def groupBy (key : Expr) : Drafting Unit := do
  let column ← columnOf key
  modify (addGroup column)

/-- `HAVING function(key) op value` -/
def having (function : String) (key : Expr) (op : Operator) (value : Value) : Drafting Unit := do
  if !op.isComparison then throw (.havingOperator op)
  let column ← columnOf key
  modify (addGroupTest function column op value)

end Draft

end Querycraft
