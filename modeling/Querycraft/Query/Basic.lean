/-
  Querycraft.Query.Basic — queries over an entity, step by step.

  A query is an entity and a draft over its table; a program is a list of steps. The
  first condition stands alone and each later one is joined to those before it by the
  connective its step names. A sub-query is a program of its own, run on an offshoot of
  the draft. A step that fails ends the program, and the query is as it was before.
-/

import Querycraft.Context
import Querycraft.Draft.Projection
import Querycraft.Draft.Templated
import Querycraft.Draft.Write

namespace Querycraft

inductive Step where
  | filter (predicate : Expr)
  | orFilter (predicate : Expr)
  | filterTemplate (template : String) (arguments : List Expr)
  | filterIn (key : Expr) (negated : Bool) (values : List Value)
  /-- Membership in the result of a program over another entity. -/
  | filterInQuery (key : Expr) (negated : Bool) (entity : Entity) (program : List Step)
  | filterBetween (key : Expr) (negated : Bool) (low high : Value)
  | orFilterBetween (key : Expr) (low high : Value)
  | select (projection : Expr)
  | selectCount (key : Expr)
  | selectFunction (function : String) (projection : Expr)
  | orderBy (key : Expr) (descending : Bool)
  | groupBy (key : Expr)
  | having (function : String) (key : Expr) (op : Operator) (value : Value)
  | take (size : UInt64)
  | skip (offset : UInt64)
  | page (index size : UInt64)
  | join (kind : JoinKind) (entity : Entity) (on : Expr)
  /-- One more row, from a record. -/
  | values (record : Expr)
  /-- One more row, from a captured document; a capture that failed says why. -/
  | value (captured : Except String Json)
  | output (projection : Expr)
  | insertInto (entity : Entity) (columns : Expr)
  | set (assignments : Expr)
  /-- A step whose arguments could not be made. -/
  | reject (error : Error)

namespace Step

/-- The names of projected columns; a whole row has none. -/
def outputColumns : List Projected → Except Error (List String)
  | [] => .ok []
  | .table t :: _ => .error (.rowAsOutput t)
  | .column c _ :: rest => (outputColumns rest).map (c.name :: ·)

/-- The columns an INSERT fills; a whole row stands for those the entity maps. -/
def filledColumns (entity : Entity) (projection : List Projected) : List String :=
  projection.flatMap fun
    | .table _ => entity.columnNames
    | .column c _ => [c.name]

open Draft

mutual

def run (entity : Entity) : Step → Drafting Unit
  | .filter e => do
    modify conjoined
    predicate e
  | .orFilter e => do
    modify disjoined
    predicate e
  | .filterTemplate template arguments => do
    modify conjoined
    templated template arguments
  | .filterIn key negated members => do
    modify conjoined
    keyIn key negated members
  | .filterInQuery key negated other program => do
    modify conjoined
    let sub ← onOffshoot other.table .select (runAll other program)
    keyInQuery key negated sub
  | .filterBetween key negated low high => do
    modify conjoined
    keyBetween key negated low high
  | .orFilterBetween key low high => do
    modify disjoined
    keyBetween key false low high
  | .select e => Draft.select e
  | .selectCount key => do
    modify (withOperation · .count)
    Draft.selectFunction "COUNT" key
  | .selectFunction function e => Draft.selectFunction function e
  | .orderBy key descending => Draft.orderBy key descending
  | .groupBy key => Draft.groupBy key
  | .having function key op v => Draft.having function key op v
  | .take size => modify (Draft.take size)
  | .skip offset => modify (Draft.skip offset)
  | .page index size => modify (Draft.page index size)
  | .join kind other on => joinOn kind other.table on
  | .values e => insert entity e
  | .value captured =>
    match captured with
    | .ok document => insertValue entity (Value.ofJson document)
    | .error reason => throw (.insertCaptureFailed reason)
  | .output e => do
    let columns ← given ((Projected.ofExpr e).bind outputColumns)
    modify (addOutput columns)
  | .insertInto target e => do
    let projection ← projectionOf e
    modify (Draft.insertInto target.table (filledColumns target projection))
  | .set e => update entity e
  | .reject error => throw error

def runAll (entity : Entity) : List Step → Drafting Unit
  | [] => return ()
  | step :: rest => do
    run entity step
    runAll entity rest

end

end Step

structure Query where
  entity : Entity
  draft : Draft

namespace Query

def start (context : Context) (entity : Entity) (operation : Operation) (index : Nat) :
    Except Error Query :=
  (context.draft entity.table index).map fun d => ⟨entity, d.withOperation operation⟩

def step (q : Query) (s : Step) : Except Error Query :=
  match (s.run q.entity).run q.draft with
  | (.ok (), draft) => .ok { q with draft }
  | (.error e, _) => .error e

def run (q : Query) : List Step → Except Error Query
  | [] => .ok q
  | s :: rest => do
    let q ← q.step s
    q.run rest

inductive Start where
  | select
  | count
  /-- At most one row. -/
  | selectSingle
  | delete
  | insert (record : Expr)
  | insertValue (captured : Except String Json)
  | update (assignments : Expr)

def begin (context : Context) (entity : Entity) : Start → Except Error Query
  | .select => start context entity .select 0
  | .count => start context entity .count 0
  | .selectSingle => do
    let q ← start context entity .select 0
    q.step (.take 1)
  | .delete => start context entity .delete 0
  | .insert record => do
    let q ← start context entity .insert 0
    q.step (.values record)
  | .insertValue captured => do
    let q ← start context entity .insert 0
    q.step (.value captured)
  | .update assignments => do
    let q ← start context entity .update 0
    q.step (.set assignments)

end Query

end Querycraft
