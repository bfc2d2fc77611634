/-
  Querycraft.Expr.Basic — query expressions as a caller writes them.

  Constants, rows of an entity and their members, operators, calls, and records of named
  expressions. Conversions and quotations are kept as written and mean nothing. A call
  may bring a function of its own, which gets the receiver's value first.
-/

import Querycraft.Entity
import Querycraft.Error
import Querycraft.Value.Basic

namespace Querycraft

abbrev Host := List Value → Except Error Value

inductive Expr where
  | constant (value : Value)
  | enumConstant (type variant : String) (value : Int64)
  /-- A row of an entity. -/
  | row (entity : Entity)
  | member (target : Expr) (name : String) (owner : Option Entity)
  | not (operand : Expr)
  | convert (operand : Expr)
  | quote (operand : Expr)
  | binary (op : Operator) (left right : Expr)
  /-- A method of a receiver. -/
  | invoke (receiver : Expr) (method : String) (arguments : List Expr) (host : Option Host)
  /-- A free function. -/
  | call (method : String) (arguments : List Expr) (host : Option Host)
  | record (entries : List (String × Expr))

namespace Expr

def shape : Expr → Shape
  | .constant _ => .constant
  | .enumConstant .. => .enumConstant
  | .row _ => .row
  | .member .. => .member
  | .not _ | .convert _ | .quote _ => .unary
  | .binary .. => .binary
  | .invoke .. | .call .. => .call
  | .record _ => .record

def field (entity : Entity) (member : String) : Expr :=
  .member (.row entity) member (some entity)

def like (column : Expr) (m : TextMatch) (text : Expr) : Expr :=
  .invoke column m.name [text] none

/-- The value of a captured document; a capture that failed says why. -/
def capture (captured : Except String Json) : Except Error Expr :=
  match captured with
  | .ok document => .ok (.constant (Value.ofJson document))
  | .error reason => .error (.captureFailed reason)

def joined (op : Operator) : List Expr → Option Expr
  | [] => none
  | first :: rest => some (rest.foldl (fun left right => .binary op left right) first)

/-- The entity whose row a chain of members starts from, through conversions. -/
def rowEntity? : Expr → Option Entity
  | .row entity => some entity
  | .member target _ _ => target.rowEntity?
  | .convert operand | .quote operand => operand.rowEntity?
  | _ => none

mutual

def mentionsRow : Expr → Bool
  | .constant _ | .enumConstant .. => false
  | .row _ => true
  | .member target _ _ => target.mentionsRow
  | .not operand | .convert operand | .quote operand => operand.mentionsRow
  | .binary _ left right => left.mentionsRow || right.mentionsRow
  | .invoke receiver _ arguments _ => receiver.mentionsRow || anyMentionsRow arguments
  | .call _ arguments _ => anyMentionsRow arguments
  | .record entries => anyEntryMentionsRow entries

def anyMentionsRow : List Expr → Bool
  | [] => false
  | e :: rest => e.mentionsRow || anyMentionsRow rest

def anyEntryMentionsRow : List (String × Expr) → Bool
  | [] => false
  | (_, e) :: rest => e.mentionsRow || anyEntryMentionsRow rest

end

end Expr

end Querycraft
