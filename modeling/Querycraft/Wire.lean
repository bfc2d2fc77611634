/-
  Querycraft.Wire — values as a PostgreSQL server takes them.

  A server asks for a parameter of a type, and a value either has a form of that type or
  is refused; no form loses anything. An integer is narrowed to two or four bytes only
  when it fits, and a float to four only when it stays the same number. Null is sent for
  any type and writes nothing. Numbers are big-endian, instants count microseconds and
  days count from the first of January 2000.
-/

import Querycraft.Decimal.Layout
import Querycraft.Json.Writing
import Querycraft.Text.Hex
import Querycraft.Value.Basic

namespace Querycraft.Wire

inductive ServerType where
  | builtin (name : String)
  | custom (name schema : String)
  deriving DecidableEq

namespace ServerType

/-- The type's name, with its schema unless that is searched anyway. -/
def toText : ServerType → String
  | .builtin name => name
  | .custom name schema =>
    if schema = "public" ∨ schema = "pg_catalog" then name else schema ++ "." ++ name

/-- Types of text; some added ones are known by name. -/
def isText : ServerType → Bool
  | .builtin name => ["varchar", "text", "bpchar", "name", "unknown"].contains name
  | .custom name _ => ["citext", "ltree", "lquery", "ltxtquery"].contains name

def isVersionedText : ServerType → Bool
  | .builtin _ => false
  | .custom name _ => ["ltree", "lquery", "ltxtquery"].contains name

/-- Whether some value that is not null has a form of the type. -/
def isKnown (t : ServerType) : Bool :=
  t.isText || match t with
    | .builtin name =>
      ["bool", "int2", "int4", "int8", "float4", "float8", "bytea", "uuid", "timestamp",
        "timestamptz", "date", "json", "jsonb"].contains name
    | .custom .. => false

end ServerType

inductive Refusal where
  | kind (given : Value.Kind) (wanted : ServerType)
  | tooLarge
  | tooSmall
  | inexact (f : Float)

def Refusal.message : Refusal → String
  | .kind given wanted =>
    "cannot bind a " ++ given.name ++ " value to a parameter of type " ++ wanted.toText
  | .tooLarge => "number too large to fit in target type"
  | .tooSmall => "number too small to fit in target type"
  | .inexact f => Decimal.plain f ++ " does not fit a float4 parameter exactly"

inductive Sent where
  | null
  | bytes (content : List UInt8)

def integerBytes (width : Nat) (i : Int) : List UInt8 :=
  Text.Hex.bigEndian width (i.emod (Nat.pow 2 (8 * width))).toNat

def narrowInteger (width : Nat) (i : Int) : Except Refusal Sent :=
  let bound : Int := Nat.pow 2 (8 * width - 1)
  if bound ≤ i then .error .tooLarge
  else if i < -bound then .error .tooSmall
  else .ok (.bytes (integerBytes width i))

/-- A float in four bytes, if it is the same number there. -/
def narrowFloat (f : Float) : Except Refusal Sent :=
  let bits := Decimal.narrow f
  if !f.isNaN && Decimal.widen bits != f then .error (.inexact f)
  else .ok (.bytes (Text.Hex.bigEndian 4 bits))

def textBytes (text : String) : List UInt8 := text.toUTF8.toList

def encode (value : Value) (type : ServerType) : Except Refusal Sent :=
  let refused := .error (.kind value.kind type)
  match value with
  | .null => .ok .null
  | .bool b => if type = .builtin "bool" then .ok (.bytes [if b then 1 else 0]) else refused
  | .int i =>
    if type = .builtin "int2" then narrowInteger 2 i.toInt
    else if type = .builtin "int4" then narrowInteger 4 i.toInt
    else if type = .builtin "int8" then .ok (.bytes (integerBytes 8 i.toInt))
    else refused
  | .float f =>
    if type = .builtin "float4" then narrowFloat f
    else if type = .builtin "float8" then
      .ok (.bytes (Text.Hex.bigEndian 8 ((Decimal.Binary.ofFloat f).toBits Decimal.double)))
    else refused
  | .text s =>
    if type.isVersionedText then .ok (.bytes (1 :: textBytes s))
    else if type.isText then .ok (.bytes (textBytes s))
    else refused
  | .bytes content => if type = .builtin "bytea" then .ok (.bytes content) else refused
  | .uuid u => if type = .builtin "uuid" then .ok (.bytes u.toBytes) else refused
  | .timestamp t =>
    if type = .builtin "timestamp" ∨ type = .builtin "timestamptz" then
      .ok (.bytes (integerBytes 8 t.microseconds))
    else refused
  | .date d => if type = .builtin "date" then .ok (.bytes (integerBytes 4 d.dayNumber)) else refused
  | .json document =>
    if type = .builtin "json" then .ok (.bytes (textBytes document.toText))
    else if type = .builtin "jsonb" then .ok (.bytes (1 :: textBytes document.toText))
    else refused

/-- A value written behind what a buffer holds, and whether it was null. A refusal
    writes nothing. -/
def write (value : Value) (type : ServerType) (buffer : List UInt8) :
    Except Refusal Bool × List UInt8 :=
  match encode value type with
  | .ok .null => (.ok true, buffer)
  | .ok (.bytes content) => (.ok false, buffer ++ content)
  | .error refusal => (.error refusal, buffer)

/-- A value written as `write` does, if its type is known; a type that is not writes
    nothing and is no error of the value. -/
def writeChecked (value : Value) (type : ServerType) (buffer : List UInt8) :
    Option (Except Refusal Bool) × List UInt8 :=
  if type.isKnown then
    let (result, buffer) := write value type buffer
    (some result, buffer)
  else (none, buffer)

end Querycraft.Wire
