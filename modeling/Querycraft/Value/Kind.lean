/-
  Querycraft.Value.Kind — the ten kinds of value, as messages name them.
-/

namespace Querycraft.Value

inductive Kind where
  | null
  | bool
  | int
  | float
  | text
  | bytes
  | uuid
  | timestamp
  | date
  | json
  deriving DecidableEq

def Kind.name : Kind → String
  | .null => "null"
  | .bool => "bool"
  | .int => "int"
  | .float => "float"
  | .text => "text"
  | .bytes => "bytes"
  | .uuid => "uuid"
  | .timestamp => "timestamp"
  | .date => "date"
  | .json => "json"

end Querycraft.Value
