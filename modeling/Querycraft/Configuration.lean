/-
  Querycraft.Configuration — a context from a settings text.

  Two settings: the dialect, which may be missing, and what parameter names begin with.
  A text may hold no other, and neither of them twice. The dialect is one of its names,
  letter for letter, or that name over nothing. In a document the settings may also be
  listed in their order.
-/

import Querycraft.Configuration.Toml
import Querycraft.Context

namespace Querycraft.Configuration

def dialectKey : String := "dialect"

def stemKey : String := "parameter_prefix"

/-- No name twice, and none but the settings'. -/
def namesAllowed (names : List String) : Bool :=
  names.all (fun name => name == dialectKey || name == stemKey) && decide names.Nodup

/-! ## Documents -/

/-- A dialect's name, or an object with that name and nothing. -/
def dialectOfJson? : Json → Option Dialect
  | .string name => Dialect.ofExactName? name
  | .object [(name, .null)] => Dialect.ofExactName? name
  | _ => none

def optionalDialect? : Json → Option (Option Dialect)
  | .null => some none
  | document => (dialectOfJson? document).map some

def stemOfJson? : Json → Option String
  | .string s => some s
  | _ => none

def ofJson? : Json → Option Context
  | .object members =>
    if namesAllowed (members.map Prod.fst) then do
      let dialect ← match members.lookup dialectKey with
        | none => some none
        | some document => optionalDialect? document
      let stem ← match members.lookup stemKey with
        | none => some Draft.defaultStem
        | some document => stemOfJson? document
      return { dialect, stem }
    else none
  | .array [dialect] => do
    let dialect ← optionalDialect? dialect
    return { dialect }
  | .array [dialect, stem] => do
    let dialect ← optionalDialect? dialect
    let stem ← stemOfJson? stem
    return { dialect, stem }
  | _ => none

def ofJsonText (text : String) : Except Error Context :=
  match (Json.readAsWritten? text).bind ofJson? with
  | some context => .ok context
  | none => .error .malformedConfiguration

/-! ## Settings files -/

def holdsNothing : Toml → Bool
  | .table [] | .closed [] | .emptyArray => true
  | _ => false

def dialectOfToml? : Toml → Option Dialect
  | .text name => Dialect.ofExactName? name
  | .table [(name, value)] | .closed [(name, value)] =>
    if holdsNothing value then Dialect.ofExactName? name else none
  | _ => none

def stemOfToml? : Toml → Option String
  | .text s => some s
  | _ => none

def ofToml? (entries : List (String × Toml)) : Option Context :=
  if namesAllowed (entries.map Prod.fst) then do
    let dialect ← match entries.lookup dialectKey with
      | none => some none
      | some value => (dialectOfToml? value).map some
    let stem ← match entries.lookup stemKey with
      | none => some Draft.defaultStem
      | some value => stemOfToml? value
    return { dialect, stem }
  else none

def ofTomlText (text : String) : Except Error Context :=
  match (Toml.ofText? text).bind ofToml? with
  | some context => .ok context
  | none => .error .malformedConfiguration

end Querycraft.Configuration
