/-
  Querycraft.Context — what every draft of a program starts from.
-/

import Querycraft.Draft.Basic

namespace Querycraft

structure Context where
  dialect : Option Dialect := none
  stem : String := Draft.defaultStem
  deriving DecidableEq

namespace Context

def dialectOf (c : Context) : Except Error Dialect :=
  match c.dialect with
  | some dialect => .ok dialect
  | none => .error .noDialect

def draft (c : Context) (table : String) (index : Nat) : Except Error Draft :=
  (Draft.onTable? c.dialect table).map fun d => (d.withStem c.stem).numberedFrom index

end Context

end Querycraft
