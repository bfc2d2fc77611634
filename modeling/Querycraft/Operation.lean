/-
  Querycraft.Operation — what a command does, and how it joins tables.
-/

namespace Querycraft

/-- The kind of statement a command renders. `condition` is a bare condition, for text
    that is spliced into another command. -/
inductive Operation where
  | select
  | count
  | insert
  | insertFrom
  | update
  | delete
  | condition
  deriving DecidableEq

def Operation.name : Operation → String
  | .select => "Select"
  | .count => "Count"
  | .insert => "Insert"
  | .insertFrom => "InsertFrom"
  | .update => "Update"
  | .delete => "Delete"
  | .condition => "Case"

/-- The operation a name stands for, written exactly as `Operation.name` writes it. -/
def Operation.ofName? (name : String) : Option Operation :=
  [.select, .count, .insert, .insertFrom, .update, .delete, .condition].find?
    fun operation : Operation => operation.name == name

inductive JoinKind where
  | inner
  | left
  | right
  | full
  deriving DecidableEq

def JoinKind.keyword : JoinKind → String
  | .inner => "INNER JOIN"
  | .left => "LEFT JOIN"
  | .right => "RIGHT JOIN"
  | .full => "FULL JOIN"

end Querycraft
