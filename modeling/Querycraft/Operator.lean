/-
  Querycraft.Operator — the binary operators of expressions.

  Six comparisons, two connectives and five arithmetic operators. `converse` is the
  comparison with its sides exchanged: `a < b` says what `b > a` says.
-/

namespace Querycraft

inductive Operator where
  | equal
  | notEqual
  | greater
  | greaterOrEqual
  | less
  | lessOrEqual
  | and
  | or
  | add
  | subtract
  | multiply
  | divide
  | modulo
  deriving DecidableEq

namespace Operator

def name : Operator → String
  | .equal => "Equal"
  | .notEqual => "NotEqual"
  | .greater => "GreaterThan"
  | .greaterOrEqual => "GreaterThanOrEqual"
  | .less => "LessThan"
  | .lessOrEqual => "LessThanOrEqual"
  | .and => "And"
  | .or => "Or"
  | .add => "Add"
  | .subtract => "Subtract"
  | .multiply => "Multiply"
  | .divide => "Divide"
  | .modulo => "Modulo"

def symbol : Operator → String
  | .equal => "="
  | .notEqual => "<>"
  | .greater => ">"
  | .greaterOrEqual => ">="
  | .less => "<"
  | .lessOrEqual => "<="
  | .and => "AND"
  | .or => "OR"
  | .add => "+"
  | .subtract => "-"
  | .multiply => "*"
  | .divide => "/"
  | .modulo => "%"

/-- The operator that says the same with its sides exchanged. -/
def converse : Operator → Operator
  | .greater => .less
  | .greaterOrEqual => .lessOrEqual
  | .less => .greater
  | .lessOrEqual => .greaterOrEqual
  | op => op

def isComparison : Operator → Bool
  | .equal | .notEqual | .greater | .greaterOrEqual | .less | .lessOrEqual => true
  | _ => false

def isLogical : Operator → Bool
  | .and | .or => true
  | _ => false

def isArithmetic : Operator → Bool
  | .add | .subtract | .multiply | .divide | .modulo => true
  | _ => false

/-- Equality and its negation, the comparisons that `NULL` has a test for. -/
def isEquality : Operator → Bool
  | .equal | .notEqual => true
  | _ => false

end Operator

end Querycraft
