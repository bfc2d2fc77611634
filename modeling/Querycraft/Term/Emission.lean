/-
  Querycraft.Term.Emission — the condition a term becomes.

  A connective is put in a group of its own, and so is a comparison whose sides are not
  columns and values; a negation always has a group behind it. A column against a value
  is one fragment, with the column on the left; against `NULL` it is a test. An order
  comparison with `NULL` is refused, and the fragments that come before it are there.
-/

import Querycraft.Error
import Querycraft.Fragment
import Querycraft.Term.Basic

namespace Querycraft

/-- Fragments in order, and why there are no more of them. -/
structure Emission where
  fragments : List (Fragment Value)
  failure : Option Error := none

namespace Emission

def one (fragment : Fragment Value) : Emission := { fragments := [fragment] }

def failed (error : Error) : Emission := { fragments := [], failure := some error }

/-- One emission after another; after a failure nothing follows. -/
def followedBy (a b : Emission) : Emission :=
  match a.failure with
  | some _ => a
  | none => { fragments := a.fragments ++ b.fragments, failure := b.failure }

instance : Append Emission := ⟨followedBy⟩

def grouped (inside : Emission) : Emission := one .opening ++ inside ++ one .closing

end Emission

namespace Term

inductive Pair where
  | withValue (column : Column) (op : Operator) (value : Value)
  | columns (left : Column) (op : Operator) (right : Column)

/-- The pair of a comparison of columns and values; a value on the left exchanges the
    sides. -/
def pair? (op : Operator) : Term → Term → Option Pair
  | .column c, .value v => some (.withValue c op v)
  | .value v, .column c => some (.withValue c op.converse v)
  | .column left, .column right => some (.columns left op right)
  | _, _ => none

def isGrouped : Term → Bool
  | .operation op left right => op.isLogical || (pair? op left right).isNone
  | _ => false

def emitPair : Pair → Emission
  | .withValue c op .null =>
    match op with
    | .equal => .one (.nullTest c false)
    | .notEqual => .one (.nullTest c true)
    | op => .failed (.nullOrdered op)
  | .withValue c op v => .one (.compare c op v)
  | .columns left op right => .one (.compareColumns left op right)

def emitLike (m : TextMatch) (c : Column) (text : String) : Emission :=
  match m with
  | .equals => .one (.compare c .equal (.text text))
  | m => .one (.like c (.text (m.pattern text)))

def emit : Term → Emission
  | .column c => .one (.column c)
  | .value v => .one (.operand v)
  | .like m c text => emitLike m c text
  | .not operand =>
    if operand.isGrouped then .one .negation ++ operand.emit
    else .one .negation ++ .grouped operand.emit
  | .operation op left right =>
    match op with
    | .and => .grouped (left.emit ++ .one .conjunction ++ right.emit)
    | .or => .grouped (left.emit ++ .one .disjunction ++ right.emit)
    | op =>
      if op.isComparison then
        match pair? op left right with
        | some pair => emitPair pair
        | none => .grouped (left.emit ++ .one (.operator op) ++ right.emit)
      else .failed (.operatorInPredicate op)

end Term

end Querycraft
