/-
  Querycraft.Term.Basic — predicates over columns and values.

  A term is what is left of an expression once everything that touches no column has
  been evaluated: columns, values, operators, negation, and matches of a text column.
-/

import Querycraft.Entity
import Querycraft.Operator
import Querycraft.TextMatch
import Querycraft.Value.Basic

namespace Querycraft

inductive Term where
  | column (column : Column)
  | value (value : Value)
  | operation (op : Operator) (left right : Term)
  | not (operand : Term)
  | like (m : TextMatch) (column : Column) (text : String)

namespace Term

def negated? : Term → Option Term
  | .not operand => some operand
  | _ => none

end Term

end Querycraft
