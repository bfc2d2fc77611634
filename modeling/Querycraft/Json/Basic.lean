/-
  Querycraft.Json.Basic — data documents.

  A document is the usual tree of scalars, arrays and objects. A number is an integer or
  a float and the two never compare equal; the reader gives integers only from -2^63 to
  2^64 - 1. `canonical` sorts the members of every object by name and keeps the last of
  those with one name, which is how documents are held and compared.
-/

namespace Querycraft

inductive Json.Number where
  | integer (i : Int)
  | float (f : Float)

inductive Json where
  | null
  | bool (b : Bool)
  | number (n : Json.Number)
  | string (s : String)
  | array (items : List Json)
  | object (members : List (String × Json))

namespace Json

/-- Members sorted by name with one more put in its place; a member of that name is
    replaced. -/
def insertMember (name : String) (value : Json) : List (String × Json) → List (String × Json)
  | [] => [(name, value)]
  | (other, held) :: rest =>
    if name = other then (name, value) :: rest
    else if name < other then (name, value) :: (other, held) :: rest
    else (other, held) :: insertMember name value rest

mutual

def canonical : Json → Json
  | .array items => .array (canonicalItems items)
  | .object members => .object (canonicalMembers members [])
  | scalar => scalar

def canonicalItems : List Json → List Json
  | [] => []
  | item :: rest => item.canonical :: canonicalItems rest

def canonicalMembers : List (String × Json) → List (String × Json) → List (String × Json)
  | [], held => held
  | (name, value) :: rest, held => canonicalMembers rest (insertMember name value.canonical held)

end

def member? (document : Json) (name : String) : Option Json :=
  match document with
  | .object members => members.lookup name
  | _ => none

/-- Equal numbers: integers by value, floats as floats compare. -/
def Number.same : Number → Number → Bool
  | .integer a, .integer b => a == b
  | .float a, .float b => a == b
  | _, _ => false

mutual

def same : Json → Json → Bool
  | .null, .null => true
  | .bool a, .bool b => a == b
  | .number a, .number b => a.same b
  | .string a, .string b => a == b
  | .array a, .array b => sameItems a b
  | .object a, .object b => sameMembers a b
  | _, _ => false

def sameItems : List Json → List Json → Bool
  | [], [] => true
  | a :: as, b :: bs => a.same b && sameItems as bs
  | _, _ => false

def sameMembers : List (String × Json) → List (String × Json) → Bool
  | [], [] => true
  | (m, a) :: as, (n, b) :: bs => m == n && a.same b && sameMembers as bs
  | _, _ => false

end

end Json

end Querycraft
