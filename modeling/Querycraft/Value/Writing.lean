/-
  Querycraft.Value.Writing — values for readers and for documents.

  `toText` is for messages: text is quoted, bytes are only counted, an instant shows its
  zone as an offset. `toJsonText` is the value inside a document: bytes are a list of
  numbers, an instant ends in the letter of its zone, and a float that no document can
  hold is null.
-/

import Querycraft.Decimal.Layout
import Querycraft.Json.Writing
import Querycraft.Parameters
import Querycraft.Text.Quoted
import Querycraft.Value.Basic

namespace Querycraft

namespace Value

def toText : Value → String
  | .null => "NULL"
  | .bool b => if b then "true" else "false"
  | .int i => toString i.toInt
  | .float f => Decimal.plain f
  | .text s => Text.quoted s
  | .bytes content => "<" ++ toString content.length ++ " bytes>"
  | .uuid u => u.toText
  | .timestamp t => t.toText "+00:00"
  | .date d => d.toText
  | .json document => document.toText

def toJsonText : Value → String
  | .null => "null"
  | .bool b => if b then "true" else "false"
  | .int i => toString i.toInt
  | .float f => Json.floatText f
  | .text s => Json.stringText s
  | .bytes content => "[" ++ ",".intercalate (content.map fun b => toString b.toNat) ++ "]"
  | .uuid u => Json.stringText u.toText
  | .timestamp t => Json.stringText (t.toText "Z")
  | .date d => Json.stringText d.toText
  | .json document => document.toText

end Value

/-- The parameters as one object, in the order they were bound. -/
def Parameters.toJsonText (p : Parameters) : String :=
  let members := p.entries.map fun (name, value) => Json.stringText name ++ ":" ++ value.toJsonText
  "\x7b" ++ ",".intercalate members ++ "\x7d"

end Querycraft
