/-
  Querycraft.Draft.Basic — a command while it is being put together.

  A draft collects the entries of every clause and the parameters they use. Values are
  bound under fresh names, the stem followed by a counter that only grows. Positional
  placeholders count from `base`, the counter at which the statement began.

  Part of a command may be drafted on the side: `offshoot` gives a draft with the same
  dialect, stem, counter and base, and `adopt` takes its parameters back. A draft that
  holds a parameter of the same name is not adopted, and nothing changes.

  `Drafting` is a step that may fail. A step that fails keeps what it had done to the
  draft by then.
-/

import Querycraft.Clause
import Querycraft.Parameters

namespace Querycraft

structure Draft where
  dialect : Dialect
  /-- What parameter names begin with. -/
  stem : String
  operation : Operation
  /-- The table the command is about, then those that joins and an INSERT add. -/
  tables : List String
  joins : List Join
  selection : List Selected
  conditions : List (Fragment Placeholder)
  ordering : List SortKey
  grouping : List Column
  groupTests : List GroupTest
  assignments : List Assignment
  rows : List Row
  /-- The columns an INSERT gives back. -/
  output : List String
  /-- The columns an INSERT from a SELECT fills. -/
  filled : List String
  parameters : Parameters
  /-- How many parameter names have been issued. -/
  counter : Nat
  base : Nat
  pageSize : Option UInt64
  offset : UInt64

abbrev Drafting := ExceptT Error (StateM Draft)

namespace Draft

def defaultStem : String := "Param"

def onTable (dialect : Dialect) (table : String) : Draft :=
  { dialect
    stem := defaultStem
    operation := .select
    tables := [table]
    joins := []
    selection := []
    conditions := []
    ordering := []
    grouping := []
    groupTests := []
    assignments := []
    rows := []
    output := []
    filled := []
    parameters := .empty
    counter := 0
    base := 0
    pageSize := none
    offset := 0 }

def onTable? (dialect : Option Dialect) (table : String) : Except Error Draft :=
  match dialect with
  | some dialect => .ok (onTable dialect table)
  | none => .error .noDialect

def withStem (d : Draft) (stem : String) : Draft := { d with stem }

/-- Numbering goes on after names issued elsewhere. -/
def numberedFrom (d : Draft) (index : Nat) : Draft := { d with counter := index, base := index }

def offshoot (d : Draft) (table : String) (operation : Operation) : Draft :=
  { onTable d.dialect table with stem := d.stem, counter := d.counter, base := d.base, operation }

def withOperation (d : Draft) (operation : Operation) : Draft := { d with operation }

def table (d : Draft) : String := d.tables.head?.getD ""

def hasConditions (d : Draft) : Bool := !d.conditions.isEmpty

/-! ## Parameters -/

def issueName (d : Draft) : String × Draft :=
  (d.stem ++ toString (d.counter + 1), { d with counter := d.counter + 1 })

/-- A parameter stored under a name of the caller; and whether the name was new. -/
def addParameter (d : Draft) (name : String) (value : Value) : Bool × Draft :=
  let (parameters, fresh) := d.parameters.add name value
  (fresh, { d with parameters })

def bind (d : Draft) (value : Value) : Placeholder × Draft :=
  let (name, d) := d.issueName
  (d.dialect.placeholder name (d.counter - d.base), (d.addParameter name value).2)

def binding (value : Value) : StateM Draft Placeholder := fun d => d.bind value

def bindAll (values : List Value) (d : Draft) : List Placeholder × Draft :=
  (values.mapM binding).run d

def adopt (sub : Draft) : Drafting Unit := do
  let d ← get
  match sub.parameters.names.find? d.parameters.contains with
  | some name => throw (.parameterBound name)
  | none =>
    set { d with
      parameters := d.parameters.extend sub.parameters
      counter := max d.counter sub.counter }

def onOffshoot (table : String) (operation : Operation) (step : Drafting Unit) : Drafting Draft := do
  let d ← get
  match step.run (d.offshoot table operation) with
  | (.ok (), sub) => return sub
  | (.error e, _) => throw e

/-! ## Conditions -/

def push (fragment : Fragment Value) (d : Draft) : Draft :=
  let (bound, d) := (fragment.mapM binding).run d
  { d with conditions := d.conditions ++ [bound] }

/-- Text taken as it is, with the placeholders in it, at the end of the condition. -/
def pushText (words : Sql) (d : Draft) : Draft := d.push (.verbatim words)

def conjoined (d : Draft) : Draft := if d.hasConditions then d.push .conjunction else d

def disjoined (d : Draft) : Draft := if d.hasConditions then d.push .disjunction else d

/-! ## Other clauses -/

def addSelected (entry : Selected) (d : Draft) : Draft :=
  { d with selection := d.selection ++ [entry] }

def addSortKey (key : SortKey) (d : Draft) : Draft := { d with ordering := d.ordering ++ [key] }

def addGroup (column : Column) (d : Draft) : Draft := { d with grouping := d.grouping ++ [column] }

def addGroupTest (function : String) (column : Column) (op : Operator) (value : Value) (d : Draft) :
    Draft :=
  let (placeholder, d) := d.bind value
  { d with groupTests := d.groupTests ++ [⟨function, column, op, placeholder⟩] }

def take (size : UInt64) (d : Draft) : Draft := { d with pageSize := some size }

def skip (offset : UInt64) (d : Draft) : Draft := { d with offset }

/-- The product, or the greatest 64-bit number if it is less. -/
def saturatingMul (a b : UInt64) : UInt64 :=
  (min (a.toNat * b.toNat) (UInt64.size - 1)).toUInt64

def page (index size : UInt64) (d : Draft) : Draft :=
  { d with pageSize := some size, offset := saturatingMul index size }

def addAssignment (assignment : Assignment) (d : Draft) : Draft :=
  { d with assignments := d.assignments ++ [assignment] }

/-- `column = value` -/
def assign (column : String) (value : Value) (d : Draft) : Draft :=
  let (placeholder, d) := d.bind value
  d.addAssignment (.set column placeholder)

/-- `column = REPLACE(column, old, new)` -/
def assignReplaced (column : String) (old new : Value) (d : Draft) : Draft :=
  let (old, d) := d.bind old
  let (new, d) := d.bind new
  d.addAssignment (.replace column old new)

def addOutput (columns : List String) (d : Draft) : Draft := { d with output := d.output ++ columns }

def insertInto (target : String) (columns : List String) (d : Draft) : Draft :=
  { d with operation := .insertFrom, tables := d.tables ++ [target], filled := columns }

/-- One more row of an INSERT: it has columns, and the same as the first row. -/
def insertRow (row : List (String × Value)) : Drafting Unit := do
  let d ← get
  if row.isEmpty then throw .rowWithoutColumns
  else if d.rows.head?.any fun first => first.map Prod.fst ≠ row.map Prod.fst then throw .rowsDiffer
  else
    let (placeholders, d) := d.bindAll (row.map Prod.snd)
    set { d with rows := d.rows ++ [(row.map Prod.fst).zip placeholders] }

end Draft

end Querycraft
