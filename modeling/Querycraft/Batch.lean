/-
  Querycraft.Batch — several commands sent as one.

  Each member goes on numbering parameters after the last one, so that the names of the
  merged parameters differ; positions start again in every member. A member that cannot
  be built is not added: the request for it fails, and the batch is as it was.
-/

import Querycraft.Query.Basic

namespace Querycraft

structure Batch where
  context : Context
  members : List Draft

namespace Batch

def empty (context : Context) : Batch := ⟨context, []⟩

/-- The number the next member's parameters go on after. -/
def nextIndex (b : Batch) : Nat := (b.members.getLast?.map Draft.counter).getD 0

def add (b : Batch) (operation : Operation) (entity : Entity) (program : List Step) :
    Except Error Batch := do
  let q ← Query.start b.context entity operation b.nextIndex
  let q ← q.run program
  return { b with members := b.members ++ [q.draft] }

/-- A command asked of a batch: what it does, over which entity, and the program that goes
    on with it. -/
inductive Request where
  | select (entity : Entity) (program : List Step)
  | count (entity : Entity) (program : List Step)
  | insert (entity : Entity) (record : Expr) (program : List Step)
  | update (entity : Entity) (assignments : Expr) (program : List Step)
  | delete (entity : Entity) (program : List Step)

namespace Request

def operation : Request → Operation
  | .select .. => .select
  | .count .. => .count
  | .insert .. => .insert
  | .update .. => .update
  | .delete .. => .delete

def entity : Request → Entity
  | .select entity _ | .count entity _ | .insert entity _ _ | .update entity _ _ | .delete entity _ => entity

/-- The whole program: that of an INSERT begins with its row, that of an UPDATE with its
    assignments. -/
def program : Request → List Step
  | .select _ program | .count _ program | .delete _ program => program
  | .insert _ record program => .values record :: program
  | .update _ assignments program => .set assignments :: program

end Request

def attempt (b : Batch) (request : Request) : Option Error × Batch :=
  match b.add request.operation request.entity request.program with
  | .ok b' => (none, b')
  | .error e => (some e, b)

def attemptAll (b : Batch) (requests : List Request) : Batch :=
  requests.foldl (fun b request => (b.attempt request).2) b

def separator : String := "\r\n"

/-- The texts of drafts in order; the first error wins. -/
def commandTexts : List Draft → Except Error (List String)
  | [] => .ok []
  | d :: rest => do
    let text ← d.commandText
    let others ← commandTexts rest
    return text :: others

def commandText (b : Batch) : Except Error String :=
  (commandTexts b.members).map separator.intercalate

def parameters (b : Batch) : Parameters :=
  b.members.foldl (fun held d => held.extend d.parameters) .empty

end Batch

end Querycraft
