/-
  Querycraft.Entity — rows of a table, as programs name them.

  An entity maps its members to columns. The first pair for a member counts, and a
  member without one is a column of its own name.
-/

import Querycraft.Text.Quoted

namespace Querycraft

/-- A column of a table, both as they are written, not yet quoted. -/
structure Column where
  table : String
  name : String
  deriving DecidableEq

structure Entity where
  name : String
  table : String
  columns : List (String × String)
  deriving DecidableEq

namespace Entity

def columnName (entity : Entity) (member : String) : String :=
  (entity.columns.lookup member).getD member

def column (entity : Entity) (member : String) : Column :=
  { table := entity.table, name := entity.columnName member }

def memberText (member : String) : String := "Field(" ++ Text.quoted member ++ ")"

def columnNames (entity : Entity) : List String := entity.columns.map Prod.snd

end Entity

end Querycraft
