/-
  Querycraft.Json.Reading — documents from text.

  `readAsWritten?` keeps the members of an object in the order of the text, repeated
  names included, for readers that refuse repetition; `ofText?` is the canonical
  document. An integer that fits 64 bits, signed or not, stays an integer and every
  other number is a float. Minus zero is a float.

  A float is read from its leading digits, as many as a 64-bit word holds, by one
  multiplication or division with a power of ten. Both steps round, so a long decimal
  may come out one place away from the nearest float.
-/

import Querycraft.Decimal.Reading
import Querycraft.Json.Basic
import Querycraft.Text.Hex

namespace Querycraft.Json

/-- A reader takes what it reads from the front of a text and gives back the rest. -/
abbrev Reader (α : Type) := List Char → Option (α × List Char)

def isSpace (c : Char) : Bool := c == ' ' || c == '\t' || c == '\n' || c == '\r'

def skipSpaces (cs : List Char) : List Char := cs.dropWhile isSpace

/-! ## Numbers -/

/-- Digits read into a word for as long as they fit: the word and how many digits
    were left out. -/
def leadingDigits : List Char → Nat → Nat × Nat
  | [], word => (word, 0)
  | c :: rest, word =>
    let next := 10 * word + (c.toNat - 48)
    if next < UInt64.size then leadingDigits rest next else (word, rest.length + 1)

def powerOfTen (n : Nat) : Float := Decimal.nearestTen false 1 n

/-- The word times a power of ten, in floats; none where the result is infinite. A
    power beyond the largest float is applied in two steps. -/
def scaled? (word : Nat) (exponent : Int) : Option Float :=
  let f := word.toUInt64.toFloat
  if word = 0 then some 0
  else if exponent > 308 then none
  else if exponent ≥ 0 then
    let product := f * powerOfTen exponent.toNat
    if product.isInf then none else some product
  else if exponent ≥ -308 then some (f / powerOfTen exponent.natAbs)
  else if exponent ≥ -616 then some (f / powerOfTen 308 / powerOfTen (exponent.natAbs - 308))
  else some 0

structure Parts where
  negative : Bool
  whole : List Char
  fraction : Option (List Char)
  exponent : Option Int

/-- The value of a number: none if it is too large for a float. -/
def Parts.value? (p : Parts) : Option Number :=
  let (word, dropped) := leadingDigits p.whole 0
  let integer : Int := if p.negative then -(word : Int) else word
  if p.fraction.isNone ∧ p.exponent.isNone ∧ dropped = 0
      ∧ ¬(p.negative ∧ (word = 0 ∨ integer < Int64.minValue.toInt)) then
    some (.integer integer)
  else
    let fraction := p.fraction.getD []
    let (word, left) := leadingDigits fraction word
    let places : Int := (fraction.length : Int) - left
    (scaled? word (p.exponent.getD 0 + dropped - places)).map fun f =>
      .float (if p.negative then -f else f)

def readFraction : Reader (Option (List Char))
  | '.' :: rest =>
    match Text.takeDigits rest with
    | ([], _) => none
    | (digits, rest) => some (some digits, rest)
  | cs => some (none, cs)

def readExponentDigits (negative : Bool) (cs : List Char) : Option (Option Int × List Char) :=
  match Text.takeDigits cs with
  | ([], _) => none
  | (digits, rest) =>
    let n : Int := Text.digitsValue digits
    some (some (if negative then -n else n), rest)

def readExponent : Reader (Option Int)
  | 'e' :: '-' :: rest | 'E' :: '-' :: rest => readExponentDigits true rest
  | 'e' :: '+' :: rest | 'E' :: '+' :: rest => readExponentDigits false rest
  | 'e' :: rest | 'E' :: rest => readExponentDigits false rest
  | cs => some (none, cs)

/-- A number: no zeros in front of other digits, digits on both sides of a point. -/
def readNumber (cs : List Char) : Option (Number × List Char) := do
  let (negative, cs) := match cs with
    | '-' :: rest => (true, rest)
    | cs => (false, cs)
  let (whole, cs) := Text.takeDigits cs
  if whole.isEmpty ∨ (whole.head? = some '0' ∧ 1 < whole.length) then none
  else
    let (fraction, cs) ← readFraction cs
    let (exponent, cs) ← readExponent cs
    let value ← Parts.value? { negative, whole, fraction, exponent }
    return (value, cs)

/-! ## Strings -/

def readUnit : Reader Nat
  | a :: b :: c :: d :: rest => do
    let a ← Text.Hex.digitValue? a
    let b ← Text.Hex.digitValue? b
    let c ← Text.Hex.digitValue? c
    let d ← Text.Hex.digitValue? d
    return (((a * 16 + b) * 16 + c) * 16 + d, rest)
  | _ => none

/-- A character written by its code unit, or by a pair of them above the first plane. -/
def readCodePoint (cs : List Char) : Option (Char × List Char) := do
  let (unit, cs) ← readUnit cs
  if unit < 0xD800 ∨ 0xDFFF < unit then return (Char.ofNat unit, cs)
  else if unit < 0xDC00 then
    match cs with
    | '\\' :: 'u' :: cs =>
      let (low, cs) ← readUnit cs
      if 0xDC00 ≤ low ∧ low ≤ 0xDFFF then
        return (Char.ofNat (0x10000 + (unit - 0xD800) * 0x400 + (low - 0xDC00)), cs)
      else none
    | _ => none
  else none

def readEscape : Reader Char
  | '"' :: rest => some ('"', rest)
  | '\\' :: rest => some ('\\', rest)
  | '/' :: rest => some ('/', rest)
  | 'b' :: rest => some (Char.ofNat 8, rest)
  | 'f' :: rest => some (Char.ofNat 12, rest)
  | 'n' :: rest => some ('\n', rest)
  | 'r' :: rest => some ('\r', rest)
  | 't' :: rest => some ('\t', rest)
  | 'u' :: rest => readCodePoint rest
  | _ => none

def readChars : Nat → Reader (List Char)
  | 0, _ => none
  | _ + 1, [] => none
  | _ + 1, '"' :: rest => some ([], rest)
  | fuel + 1, '\\' :: rest => do
    let (c, rest) ← readEscape rest
    let (cs, rest) ← readChars fuel rest
    return (c :: cs, rest)
  | fuel + 1, c :: rest =>
    if c.toNat < 32 then none
    else do
      let (cs, rest) ← readChars fuel rest
      return (c :: cs, rest)

def readString (cs : List Char) : Option (String × List Char) :=
  (readChars (cs.length + 1) cs).map fun (text, rest) => (String.ofList text, rest)

/-! ## Values -/

mutual

def readValue : Nat → Reader Json
  | 0, _ => none
  | fuel + 1, cs =>
    match cs with
    | 'n' :: 'u' :: 'l' :: 'l' :: rest => some (.null, rest)
    | 't' :: 'r' :: 'u' :: 'e' :: rest => some (.bool true, rest)
    | 'f' :: 'a' :: 'l' :: 's' :: 'e' :: rest => some (.bool false, rest)
    | '"' :: rest => (readString rest).map fun (s, rest) => (.string s, rest)
    | '[' :: rest =>
      match skipSpaces rest with
      | ']' :: rest => some (.array [], rest)
      | rest => (readItems fuel rest).map fun (items, rest) => (.array items, rest)
    | '\x7b' :: rest =>
      match skipSpaces rest with
      | '\x7d' :: rest => some (.object [], rest)
      | rest => (readMembers fuel rest).map fun (members, rest) => (.object members, rest)
    | cs => (readNumber cs).map fun (n, rest) => (.number n, rest)

def readItems : Nat → Reader (List Json)
  | 0, _ => none
  | fuel + 1, cs => do
    let (item, cs) ← readValue fuel cs
    match skipSpaces cs with
    | ']' :: rest => return ([item], rest)
    | ',' :: rest =>
      let (items, rest) ← readItems fuel (skipSpaces rest)
      return (item :: items, rest)
    | _ => none

def readMembers : Nat → Reader (List (String × Json))
  | 0, _ => none
  | fuel + 1, '"' :: cs => do
    let (name, cs) ← readString cs
    match skipSpaces cs with
    | ':' :: cs =>
      let (value, cs) ← readValue fuel (skipSpaces cs)
      match skipSpaces cs with
      | '\x7d' :: rest => return ([(name, value)], rest)
      | ',' :: rest =>
        let (members, rest) ← readMembers fuel (skipSpaces rest)
        return ((name, value) :: members, rest)
      | _ => none
    | _ => none
  | _ + 1, _ => none

end

/-- The document a text writes, members in the order of the text. -/
def readAsWritten? (text : String) : Option Json :=
  let cs := text.toList
  match readValue (cs.length + 1) (skipSpaces cs) with
  | some (document, rest) => if (skipSpaces rest).isEmpty then some document else none
  | none => none

def ofText? (text : String) : Option Json := (readAsWritten? text).map canonical

end Querycraft.Json
