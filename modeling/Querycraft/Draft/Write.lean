/-
  Querycraft.Draft.Write — assignments and rows from expressions and documents.

  An assignment is a member and a value. A call of the replacing method on a column is
  the one method that becomes a function of the statement; it assigns the column it is
  called on. Any other value is evaluated. A row from a document has the members that
  the entity maps, in the entity's order, or all members when it maps none.
-/

import Querycraft.Draft.Predicate

namespace Querycraft.Draft

/-- A result that does not depend on the draft. -/
def given (result : Except Error α) : Drafting α :=
  match result with
  | .ok a => return a
  | .error e => throw e

/-- The method that becomes a function of an UPDATE. -/
def isReplaceMethod (method : String) : Bool := Text.lowerAscii method == "replace"

def assignMethod (receiver : Expr) (method : String) (arguments : List Expr) : Drafting Unit := do
  let column ← columnOf receiver
  if isReplaceMethod method then
    match ← given (Expr.evaluateAll arguments) with
    | [old, new] => modify (assignReplaced column.name old new)
    | _ => throw .replaceArguments
  else throw (.methodInUpdate method)

def assignValue (entity : Entity) (member : String) (e : Expr) : Drafting Unit := do
  let value ← given e.evaluate
  modify (assign (entity.columnName member) value)

def assignEntry (entity : Entity) (member : String) (e : Expr) : Drafting Unit :=
  match e with
  | .invoke receiver method arguments none =>
    if receiver.rowEntity?.isSome then assignMethod receiver method arguments
    else assignValue entity member e
  | e => assignValue entity member e

def assignEntries (entity : Entity) : List (String × Expr) → Drafting Unit
  | [] => return ()
  | (member, e) :: rest => do
    assignEntry entity member e
    assignEntries entity rest

def update (entity : Entity) (assignments : Expr) : Drafting Unit :=
  match assignments with
  | .record entries => assignEntries entity entries
  | e => throw (.assignmentsExpected e.shape)

def rowOfEntries (entity : Entity) : List (String × Expr) → Except Error (List (String × Value))
  | [] => .ok []
  | (member, e) :: rest => do
    let value ← e.evaluate
    let others ← rowOfEntries entity rest
    return (entity.columnName member, value) :: others

def insert (entity : Entity) (record : Expr) : Drafting Unit :=
  match record with
  | .record entries => do
    let row ← given (rowOfEntries entity entries)
    insertRow row
  | e => throw (.rowExpected e.shape)

def rowOfMembers (entity : Entity) (members : List (String × Json)) : List (String × Value) :=
  if entity.columns.isEmpty then members.map fun (name, value) => (name, Value.ofJson value)
  else entity.columns.filterMap fun (member, column) =>
    (members.lookup member).map fun value => (column, Value.ofJson value)

def insertValue (entity : Entity) (value : Value) : Drafting Unit :=
  match value with
  | .json (.object members) => insertRow (rowOfMembers entity members)
  | other => throw (.objectExpected other.kind)

end Querycraft.Draft
