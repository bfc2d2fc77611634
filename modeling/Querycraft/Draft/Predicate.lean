/-
  Querycraft.Draft.Predicate — conditions from expressions.

  An expression is lowered to a term, the term brought to normal form, and its fragments
  pushed one by one. An expression that cannot be lowered leaves the draft as it was;
  one whose term cannot be emitted leaves the fragments before the fault.
-/

import Querycraft.Draft.Splice
import Querycraft.Term.Emission
import Querycraft.Term.Lowering
import Querycraft.Term.NormalForm

namespace Querycraft

def Term.resolve (e : Expr) : Except Error Term := (Term.ofExpr e).map Term.normalize

namespace Draft

/-- The fragments of an emission pushed in order, then its failure. -/
def emit (emission : Emission) : Drafting Unit := do
  modify fun d => emission.fragments.foldl (fun d fragment => d.push fragment) d
  match emission.failure with
  | some e => throw e
  | none => return ()

def predicate (e : Expr) : Drafting Unit := do
  match Term.resolve e with
  | .error e => throw e
  | .ok term => emit term.emit

def columnOf (e : Expr) : Drafting Column :=
  match Column.ofExpr e with
  | .ok column => return column
  | .error e => throw e

/-- `key [NOT] IN (values)` -/
def keyIn (key : Expr) (negated : Bool) (values : List Value) : Drafting Unit := do
  let column ← columnOf key
  modify (push (.inList column negated values))

/-- `key [NOT] IN (query)` -/
def keyInQuery (key : Expr) (negated : Bool) (query : Draft) : Drafting Unit := do
  let column ← columnOf key
  inQuery column negated query

/-- `(key [NOT] BETWEEN low AND high)` -/
def keyBetween (key : Expr) (negated : Bool) (low high : Value) : Drafting Unit := do
  let column ← columnOf key
  modify (push (.between column negated low high))

def joinOn (kind : JoinKind) (table : String) (on : Expr) : Drafting Unit := do
  let condition ← onOffshoot table .condition (predicate on)
  join kind table condition

end Draft

end Querycraft
