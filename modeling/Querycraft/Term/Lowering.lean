/-
  Querycraft.Term.Lowering — expressions as terms.

  A chain of members that starts from a row is a column: that of its last member, in
  the entity that declares the member or else in the row's. Arithmetic and calls are
  evaluated at once, so they may mention no row; the one exception is a match of a text
  column, whose argument is evaluated. Conversions and quotations vanish.
-/

import Querycraft.Expr.Evaluation
import Querycraft.Term.Basic

namespace Querycraft

/-- The column of the last member of a chain that starts from a row. -/
def Expr.chainColumn (row : Entity) (member : String) (owner : Option Entity) : Column :=
  (owner.getD row).column member

/-- The column an expression stands for, if it stands for one: conversions aside, a
    member of a chain that starts from a row. -/
def Expr.column? : Expr → Option Column
  | .member target name owner => target.rowEntity?.map fun row => Expr.chainColumn row name owner
  | .convert operand | .quote operand => operand.column?
  | _ => none

namespace Term

def ofExpr : Expr → Except Error Term
  | .constant v => .ok (.value v)
  | .enumConstant _ _ i => .ok (.value (.int i))
  | .row entity => .error (.rowAsOperand entity.name)
  | .member target name owner =>
    match target.rowEntity? with
    | some row => .ok (.column (Expr.chainColumn row name owner))
    | none => (Expr.member target name owner).evaluate.map .value
  | .not operand => (ofExpr operand).map .not
  | .convert operand | .quote operand => ofExpr operand
  | .binary op left right =>
    if op.isArithmetic then
      if (Expr.binary op left right).mentionsRow then .error (.arithmeticOnColumn op)
      else (Expr.binary op left right).evaluate.map .value
    else do
      let l ← ofExpr left
      let r ← ofExpr right
      return .operation op l r
  | .invoke receiver method arguments host =>
    if receiver.rowEntity?.isSome then
      match TextMatch.ofName? method, arguments with
      | none, _ => .error (.methodOnColumn method)
      | some m, [argument] =>
        match ofExpr receiver with
        | .ok (.column c) => do
          match ← argument.evaluate with
          | .text text => .ok (.like m c text)
          | other => .error (.textExpected m other.kind)
        | .ok _ => .error (.columnExpected receiver.shape)
        | .error e => .error e
      | some m, arguments => .error (.argumentCount m arguments.length)
    else (Expr.invoke receiver method arguments host).evaluate.map .value
  | .call method arguments host => (Expr.call method arguments host).evaluate.map .value
  | .record _ => .error .recordAsOperand

end Term

def Column.ofExpr (e : Expr) : Except Error Column := do
  match ← Term.ofExpr e with
  | .column c => .ok c
  | _ => .error (.columnExpected e.shape)

end Querycraft
