/-
  Querycraft.Declaration.Naming — column names from member names.
-/

import Querycraft.Text.Word

namespace Querycraft

inductive Naming where
  | asWritten
  | pascal
  | camel
  | snake
  | screamingSnake
  deriving DecidableEq

namespace Naming

/-- The rule a name stands for. A member is left as it is written only without a rule. -/
def ofName? (name : String) : Option Naming :=
  match name with
  | "PascalCase" => some .pascal
  | "camelCase" => some .camel
  | "snake_case" => some .snake
  | "SCREAMING_SNAKE_CASE" => some .screamingSnake
  | _ => none

open Text

def camelWords : List (List Char) → List (List Char)
  | [] => []
  | first :: rest => lowerWord first :: rest.map capitalWord

def apply (rule : Naming) (name : String) : String :=
  let parts := words name.toList
  match rule with
  | .asWritten => name
  | .pascal => String.ofList (parts.flatMap capitalWord)
  | .camel => String.ofList (camelWords parts).flatten
  | .snake => String.ofList (List.intercalate ['_'] (parts.map lowerWord))
  | .screamingSnake => String.ofList (List.intercalate ['_'] (parts.map upperWord))

end Naming

end Querycraft
