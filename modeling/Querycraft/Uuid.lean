/-
  Querycraft.Uuid — 128-bit identifiers.

  The text has 32 small hexadecimal digits in groups of 8, 4, 4, 4 and 12.
-/

import Querycraft.Text.Hex

namespace Querycraft

structure Uuid where
  bits : BitVec 128
  deriving DecidableEq

namespace Uuid

def toBytes (u : Uuid) : List UInt8 := Text.Hex.bigEndian 16 u.bits.toNat

def hexDigits (u : Uuid) : List Char := u.toBytes.flatMap Text.Hex.encodeByte

def toText (u : Uuid) : String :=
  let d := u.hexDigits
  String.ofList (d.take 8 ++ '-' :: (d.drop 8).take 4 ++ '-' :: (d.drop 12).take 4
    ++ '-' :: (d.drop 16).take 4 ++ '-' :: d.drop 20)

/-- The identifier a text stands for, in the form `toText` writes; letters may be
    capitals. -/
def ofText? (text : String) : Option Uuid := do
  let digits ← (text.toList.filter (· != '-')).mapM Text.Hex.digitValue?
  let u : Uuid := ⟨BitVec.ofNat 128 (digits.foldl (fun n d => n * 16 + d) 0)⟩
  if u.toText = text.map Char.toLower then some u else none

end Uuid

end Querycraft
