/-
  Querycraft.Value.Basic — the values a query carries.

  The set is closed: everything that is bound to a parameter is one of these. A document
  whose root is a scalar becomes the scalar (`ofJson`); arrays and objects stay
  documents, and only objects have members. An integer of a document that does not fit
  64 signed bits becomes the nearest float.
-/

import Querycraft.Calendar
import Querycraft.Json.Basic
import Querycraft.Uuid
import Querycraft.Value.Kind

namespace Querycraft

inductive Value where
  | null
  | bool (b : Bool)
  | int (i : Int64)
  | float (f : Float)
  | text (s : String)
  | bytes (content : List UInt8)
  | uuid (u : Uuid)
  | timestamp (t : Timestamp)
  | date (d : Date)
  | json (document : Json)

namespace Value

def kind : Value → Kind
  | .null => .null
  | .bool _ => .bool
  | .int _ => .int
  | .float _ => .float
  | .text _ => .text
  | .bytes _ => .bytes
  | .uuid _ => .uuid
  | .timestamp _ => .timestamp
  | .date _ => .date
  | .json _ => .json

def isNull : Value → Bool
  | .null => true
  | _ => false

def text? : Value → Option String
  | .text s => some s
  | _ => none

/-- Equal values: of one kind and alike in it. Floats compare as floats do, so not-a-number
    differs from itself and the two zeros are equal. -/
def same : Value → Value → Bool
  | .null, .null => true
  | .bool a, .bool b => a == b
  | .int a, .int b => a == b
  | .float a, .float b => a == b
  | .text a, .text b => a == b
  | .bytes a, .bytes b => a == b
  | .uuid a, .uuid b => a == b
  | .timestamp a, .timestamp b => a == b
  | .date a, .date b => a == b
  | .json a, .json b => a.same b
  | _, _ => false

def fitsInt64 (i : Int) : Bool := Int64.minValue.toInt ≤ i && i ≤ Int64.maxValue.toInt

def ofNumber : Json.Number → Value
  | .integer i => if fitsInt64 i then .int (Int64.ofInt i) else .float i.toNat.toUInt64.toFloat
  | .float f => .float f

/-- The value of a document: scalars come out of it. -/
def ofJson : Json → Value
  | .null => .null
  | .bool b => .bool b
  | .number n => ofNumber n
  | .string s => .text s
  | document => .json document

def member? (value : Value) (name : String) : Option Value :=
  match value with
  | .json document => (document.member? name).map ofJson
  | _ => none

end Value

end Querycraft
