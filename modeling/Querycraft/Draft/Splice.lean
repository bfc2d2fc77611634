/-
  Querycraft.Draft.Splice — text drafted on the side put into a command.
-/

import Querycraft.Draft.Command

namespace Querycraft.Draft

/-- `column [NOT] IN (query)`, with the query's parameters taken over. -/
def inQuery (column : Column) (negated : Bool) (query : Draft) : Drafting Unit := do
  match query.command with
  | .error e => throw e
  | .ok sql =>
    adopt query
    modify (push (.inQuery column negated sql))

def join (kind : JoinKind) (table : String) (on : Draft) : Drafting Unit := do
  adopt on
  modify fun d =>
    { d with tables := d.tables ++ [table], joins := d.joins ++ [⟨kind, table, on.conditionSql⟩] }

end Querycraft.Draft
