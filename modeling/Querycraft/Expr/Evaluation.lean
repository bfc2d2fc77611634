/-
  Querycraft.Expr.Evaluation — what an expression without rows is worth.

  Integers are exact: a result that does not fit 64 signed bits is an error, as is a
  division by zero, and a quotient is cut off toward zero. An integer beside a float
  becomes a float. Texts can be added. Values can be tested for equality but have no
  order here.
-/

import Querycraft.Decimal.Binary
import Querycraft.Expr.Basic

namespace Querycraft.Expr

/-- The exact result of an integer operation; none for a division by zero. -/
def exactInteger? (op : Operator) (a b : Int) : Option Int :=
  match op with
  | .add => some (a + b)
  | .subtract => some (a - b)
  | .multiply => some (a * b)
  | .divide => if b = 0 then none else some (a.tdiv b)
  | .modulo => if b = 0 then none else some (a.tmod b)
  | _ => none

/-- Integer arithmetic within 64 signed bits. The remainder of the least integer by
    minus one is refused along with its quotient. -/
def integerResult? (op : Operator) (a b : Int64) : Option Int64 :=
  if op = .modulo ∧ a = Int64.minValue ∧ b = -1 then none
  else match exactInteger? op a.toInt b.toInt with
    | some i => if Value.fitsInt64 i then some (Int64.ofInt i) else none
    | none => none

def floatResult (op : Operator) (a b : Float) : Float :=
  match op with
  | .subtract => a - b
  | .multiply => a * b
  | .divide => a / b
  | .modulo => Decimal.remainder a b
  | _ => a + b

def asFloat? : Value → Option Float
  | .int i => some i.toFloat
  | .float f => some f
  | _ => none

def arithmetic (op : Operator) (left right : Value) : Except Error Value :=
  match left, right with
  | .int a, .int b =>
    match integerResult? op a b with
    | some i => .ok (.int i)
    | none => .error (.integerRange a op b)
  | .text a, .text b =>
    if op = .add then .ok (.text (a ++ b)) else .error (.operandKinds op .text .text)
  | left, right =>
    match asFloat? left, asFloat? right with
    | some a, some b => .ok (.float (floatResult op a b))
    | _, _ => .error (.operandKinds op left.kind right.kind)

def applyOperator (op : Operator) (left right : Value) : Except Error Value :=
  match op with
  | .and =>
    match left, right with
    | .bool a, .bool b => .ok (.bool (a && b))
    | _, _ => .error (.operandKinds op left.kind right.kind)
  | .or =>
    match left, right with
    | .bool a, .bool b => .ok (.bool (a || b))
    | _, _ => .error (.operandKinds op left.kind right.kind)
  | .equal => .ok (.bool (left.same right))
  | .notEqual => .ok (.bool (!left.same right))
  | .greater | .greaterOrEqual | .less | .lessOrEqual => .error (.constantsCompared op)
  | .add | .subtract | .multiply | .divide | .modulo => arithmetic op left right

def applyNot : Value → Except Error Value
  | .bool b => .ok (.bool !b)
  | other => .error (.booleanExpected other.kind)

def applyMember (owner : Value) (name : String) : Except Error Value :=
  match owner.member? name with
  | some value => .ok value
  | none => .error (.noMember owner.kind name)

mutual

def evaluate : Expr → Except Error Value
  | .constant value => .ok value
  | .enumConstant _ _ value => .ok (.int value)
  | .row entity => .error (.rowHasNoValue entity.name)
  | .member target name _ => do
    let owner ← target.evaluate
    applyMember owner name
  | .not operand => do
    let value ← operand.evaluate
    applyNot value
  | .convert operand | .quote operand => operand.evaluate
  | .binary op left right => do
    let l ← left.evaluate
    let r ← right.evaluate
    applyOperator op l r
  | .invoke receiver method arguments host =>
    match host with
    | none => .error (.noEvaluator method)
    | some host => do
      let first ← receiver.evaluate
      let rest ← evaluateAll arguments
      host (first :: rest)
  | .call method arguments host =>
    match host with
    | none => .error (.noEvaluator method)
    | some host => do
      let values ← evaluateAll arguments
      host values
  | .record _ => .error .recordAsValue

def evaluateAll : List Expr → Except Error (List Value)
  | [] => .ok []
  | e :: rest => do
    let value ← e.evaluate
    let values ← evaluateAll rest
    return value :: values

end

end Querycraft.Expr
