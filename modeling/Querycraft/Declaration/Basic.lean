/-
  Querycraft.Declaration.Basic — declared types and the attributes on them.

  An attribute is a path and a list of entries, of which only those with a key, an equals
  sign and a string, divided by commas, are well formed; a key is an identifier and no
  reserved word. `Attribute.settings` reads the entries of all attributes meant for this
  library, in order, before anyone asks what their keys set.
-/

import Querycraft.Declaration.Naming

namespace Querycraft

inductive Declaration.Fault where
  | unnamedFields
  | notStruct
  | notEnum
  | variantFields
  | equalsExpected
  | stringExpected
  | identifierExpected
  | reservedKey (key : String)
  | unexpectedToken
  | unknownTypeKey (key : String)
  | unknownFieldKey (key : String)
  | unknownNaming (rule : String)
  /-- A member whose constant would have no name. -/
  | unnamedConstant
  deriving DecidableEq

namespace Declaration

/-- The words of a fault; a constant without a name stops without any. -/
def Fault.message? : Fault → Option String
  | .unnamedFields => some "Entity can only be derived for structs with named fields"
  | .notStruct => some "Entity can only be derived for structs"
  | .notEnum => some "SqlEnum can only be derived for enums"
  | .variantFields => some "SqlEnum variants must be unit variants (no fields)"
  | .equalsExpected => some "expected `=`"
  | .stringExpected => some "expected string literal"
  | .identifierExpected => some "expected identifier"
  | .reservedKey key => some ("expected identifier, found keyword `" ++ key ++ "`")
  | .unexpectedToken => some "unexpected token"
  | .unknownTypeKey key =>
    some ("unknown #[sql] struct attribute '" ++ key ++ "' (expected table or rename_all)")
  | .unknownFieldKey key => some ("unknown #[sql] field attribute '" ++ key ++ "' (expected column)")
  | .unknownNaming rule =>
    some ("unknown rename_all rule '" ++ rule
      ++ "' (expected PascalCase, camelCase, snake_case or SCREAMING_SNAKE_CASE)")
  | .unnamedConstant => none

def plainIdentifier (identifier : String) : String :=
  match identifier.toList with
  | 'r' :: '#' :: rest => String.ofList rest
  | _ => identifier

def reservedWords : List String :=
  ["_", "abstract", "as", "async", "await", "become", "box", "break", "const", "continue", "crate",
   "do", "dyn", "else", "enum", "extern", "false", "final", "fn", "for", "if", "impl", "in", "let",
   "loop", "macro", "match", "mod", "move", "mut", "override", "priv", "pub", "ref", "return", "Self",
   "self", "static", "struct", "super", "trait", "true", "try", "type", "typeof", "unsafe", "unsized",
   "use", "virtual", "where", "while", "yield"]

/-- Whether a character belongs to a word; beyond ASCII there are words only. -/
def isWordChar (c : Char) : Bool := c.isAlphanum || c == '_' || 128 ≤ c.toNat

/-- Why a text is no key. A word that starts with a digit is no identifier, and what
    follows the first word stands where the equals sign should. -/
def keyFault? (key : String) : Option Fault :=
  let plain := plainIdentifier key
  let (word, rest) := plain.toList.span isWordChar
  if word.head?.all Char.isDigit then some .identifierExpected
  else if plain = key ∧ reservedWords.contains (String.ofList word) then
    some (.reservedKey (String.ofList word))
  else if rest.isEmpty then none
  else some .equalsExpected

inductive Entry where
  | setting (key value : String)
  /-- A key and nothing behind it. -/
  | bare (key : String)
  | number (key digits : String)
  /-- A setting without a comma behind it. -/
  | unseparated (key value : String)

def Entry.key : Entry → String
  | .setting key _ | .bare key | .number key _ | .unseparated key _ => key

/-- The key and the value of an entry. Its key is looked at first. -/
def Entry.read (e : Entry) : Except Fault (String × String) :=
  match keyFault? e.key, e with
  | some fault, _ => .error fault
  | none, .bare _ => .error .equalsExpected
  | none, .number .. => .error .stringExpected
  | none, .setting key value | none, .unseparated key value => .ok (key, value)

/-- A path and its entries. A comma behind the last of them says nothing and is not
    kept. -/
structure Attribute where
  path : String
  entries : List Entry

/-- The settings of a list of entries. The first entry that is malformed is reported; one
    without a comma ends the reading, and then nothing may follow. -/
def Attribute.readEntries : List Entry → Except Fault (List (String × String))
  | [] => .ok []
  | e :: rest => do
    let first ← e.read
    match e, rest with
    | .unseparated .., _ :: _ => .error .unexpectedToken
    | _, rest =>
      let others ← readEntries rest
      return first :: others

def Attribute.settings : List Attribute → Except Fault (List (String × String))
  | [] => .ok []
  | a :: rest =>
    if a.path = "sql" then do
      let first ← Attribute.readEntries a.entries
      let others ← settings rest
      return first ++ others
    else settings rest

structure Field where
  identifier : String
  attributes : List Attribute

structure Variant where
  identifier : String
  hasFields : Bool

inductive Body where
  | named (fields : List Field)
  | tuple
  | unit
  | union
  | enum (variants : List Variant)

end Declaration

structure Declaration where
  name : String
  attributes : List Declaration.Attribute
  body : Declaration.Body

end Querycraft
