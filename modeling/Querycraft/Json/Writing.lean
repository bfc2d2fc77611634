/-
  Querycraft.Json.Writing — documents as compact text.

  No blanks. A string escapes the quote, the backslash and the control characters and
  shows everything else. A float that is not finite has no form and is written as null.
-/

import Querycraft.Decimal.Layout
import Querycraft.Json.Basic
import Querycraft.Text.Hex

namespace Querycraft.Json

def escapeChar (c : Char) : List Char :=
  if c = '"' then ['\\', '"']
  else if c = '\\' then ['\\', '\\']
  else if c = '\n' then ['\\', 'n']
  else if c = '\r' then ['\\', 'r']
  else if c = '\t' then ['\\', 't']
  else if c.toNat = 8 then ['\\', 'b']
  else if c.toNat = 12 then ['\\', 'f']
  else if c.toNat < 32 then ['\\', 'u', '0', '0'] ++ Text.Hex.encodeByte c.toNat.toUInt8
  else [c]

def stringText (s : String) : String :=
  String.ofList ('"' :: s.toList.flatMap escapeChar ++ ['"'])

def floatText (f : Float) : String := (Decimal.document? f).getD "null"

def Number.toText : Number → String
  | .integer i => toString i
  | .float f => floatText f

mutual

def toText : Json → String
  | .null => "null"
  | .bool b => if b then "true" else "false"
  | .number n => n.toText
  | .string s => stringText s
  | .array items => "[" ++ ",".intercalate (itemTexts items) ++ "]"
  | .object members => "\x7b" ++ ",".intercalate (memberTexts members) ++ "\x7d"

def itemTexts : List Json → List String
  | [] => []
  | item :: rest => item.toText :: itemTexts rest

def memberTexts : List (String × Json) → List String
  | [] => []
  | (name, value) :: rest => (stringText name ++ ":" ++ value.toText) :: memberTexts rest

end

end Querycraft.Json
