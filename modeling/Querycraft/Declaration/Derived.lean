/-
  Querycraft.Declaration.Derived — entities and enumerations from declared types.

  A type with named fields is an entity: a field is a member, and its column is the last
  one its attributes name or else the member renamed by the type's last rule. Each
  member also gets a constant. A type of variants without fields is an enumeration.
-/

import Querycraft.Declaration.Basic
import Querycraft.Entity
import Querycraft.Text.Letter

namespace Querycraft.Declaration

structure Constant where
  name : String
  member : String
  doc : String

structure DerivedEntity where
  entity : Entity
  constants : List Constant

inductive Provision where
  /-- Its numbers and the names of its variants. -/
  | numbering
  | toValue
  | toExpr
  deriving DecidableEq

structure DerivedEnum where
  name : String
  variants : List String
  provisions : List Provision := [.numbering, .toValue, .toExpr]

structure TypeSettings where
  table : Option String := none
  naming : Naming := .asWritten

/-- The settings of a type, a later one over an earlier. -/
def typeSettings : List (String × String) → TypeSettings → Except Fault TypeSettings
  | [], held => .ok held
  | (key, value) :: rest, held =>
    if key = "table" then typeSettings rest { held with table := some value }
    else if key = "rename_all" then
      match Naming.ofName? value with
      | some naming => typeSettings rest { held with naming }
      | none => .error (.unknownNaming value)
    else .error (.unknownTypeKey key)

def fieldColumn : List (String × String) → Option String → Except Fault (Option String)
  | [], held => .ok held
  | (key, value) :: rest, _ =>
    if key = "column" then fieldColumn rest (some value) else .error (.unknownFieldKey key)

/-- Whether a constant can have this name. It is made of a member's words, and a capital
    may stand wherever its small letter may, so only the first character can be wrong. -/
def isConstantName (name : String) : Bool := name.toList.head?.any Text.beginsName

def deriveField (table : String) (naming : Naming) (field : Field) :
    Except Fault ((String × String) × Constant) := do
  let member := plainIdentifier field.identifier
  let settings ← Attribute.settings field.attributes
  let named ← fieldColumn settings none
  let column := named.getD (naming.apply member)
  let constant := Naming.screamingSnake.apply member
  if isConstantName constant then
    return ((member, column), ⟨constant, member, "`" ++ table ++ "." ++ column ++ "`"⟩)
  else throw .unnamedConstant

def deriveFields (table : String) (naming : Naming) :
    List Field → Except Fault (List ((String × String) × Constant))
  | [] => .ok []
  | field :: rest => do
    let first ← deriveField table naming field
    let others ← deriveFields table naming rest
    return first :: others

def deriveEntity (d : Declaration) : Except Fault DerivedEntity :=
  match d.body with
  | .named fields => do
    let settings ← Attribute.settings d.attributes
    let settings ← typeSettings settings {}
    let table := settings.table.getD d.name
    let derived ← deriveFields table settings.naming fields
    return {
      entity := { name := d.name, table, columns := derived.map Prod.fst }
      constants := derived.map Prod.snd }
  | .tuple | .unit => .error .unnamedFields
  | .union | .enum _ => .error .notStruct

def deriveEnum (d : Declaration) : Except Fault DerivedEnum :=
  match d.body with
  | .enum variants =>
    if variants.any Variant.hasFields then .error .variantFields
    else .ok { name := d.name, variants := variants.map Variant.identifier }
  | _ => .error .notEnum

end Querycraft.Declaration
