/-
  Querycraft.Expr.Shape — the shapes an expression can have, as messages name them.
-/

namespace Querycraft.Expr

inductive Shape where
  | constant
  | enumConstant
  | row
  | member
  | unary
  | binary
  | call
  | record
  deriving DecidableEq

def Shape.name : Shape → String
  | .constant => "Constant"
  | .enumConstant => "EnumConstant"
  | .row => "Parameter"
  | .member => "MemberAccess"
  | .unary => "Unary"
  | .binary => "Binary"
  | .call => "Call"
  | .record => "Record"

end Querycraft.Expr
