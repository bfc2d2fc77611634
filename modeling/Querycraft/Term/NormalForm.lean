/-
  Querycraft.Term.NormalForm — terms with negations where a condition can show them.

  Two negations cancel, a negated truth value is the opposite one, and a negation of a
  side of an equality moves in front of it, where a second one cancels it.
-/

import Querycraft.Term.Basic

namespace Querycraft.Term

def negate : Term → Term
  | .not operand => operand
  | .value (.bool b) => .value (.bool !b)
  | other => .not other

def equality (op : Operator) (left right : Term) : Term :=
  match left, right with
  | .not l, .not r => .operation op l r
  | .not l, r => negate (.operation op l r)
  | l, .not r => negate (.operation op l r)
  | l, r => .operation op l r

def normalize : Term → Term
  | .not operand => negate operand.normalize
  | .operation op left right =>
    if op.isEquality then equality op left.normalize right.normalize
    else .operation op left.normalize right.normalize
  | leaf => leaf

end Querycraft.Term
