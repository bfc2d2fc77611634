/-
  Querycraft.Draft.Templated — conditions from templates.

  Every place of the template has to name an argument. The arguments are then rendered
  as predicates of their own, once each and in order, whether the template uses them or
  not, and the places replaced in one pass.
-/

import Querycraft.Draft.Predicate
import Querycraft.Template

namespace Querycraft.Draft

/-- An argument's text; its parameters are taken over. -/
def renderArgument (e : Expr) : Drafting Sql := do
  let d ← get
  let part ← onOffshoot d.table .condition (predicate e)
  adopt part
  return part.conditionSql

def renderArguments : List Expr → Drafting (List Sql)
  | [] => return []
  | e :: rest => do
    let first ← renderArgument e
    let others ← renderArguments rest
    return first :: others

def fill (rendered : List Sql) (parts : List Template.Part) : Sql :=
  Sql.concat (parts.map fun
    | .char c => Sql.text c.toString
    | .place digits => ((Template.index? digits rendered.length).bind (rendered[·]?)).getD .empty)

def templated (template : String) (arguments : List Expr) : Drafting Unit := do
  let parts := Template.parse template.toList
  match Template.unmatched? parts arguments.length with
  | some digits => throw (.templateIndex (String.ofList ('@' :: digits)) arguments.length)
  | none =>
    let rendered ← renderArguments arguments
    modify (push (.verbatim (fill rendered parts)))

end Querycraft.Draft
