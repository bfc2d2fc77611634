/-
  Querycraft.Text.Digit — the ten digits, and the number a run of them writes.
-/

namespace Querycraft.Text

def takeDigits (cs : List Char) : List Char × List Char := cs.span Char.isDigit

def digitsValue (digits : List Char) : Nat :=
  digits.foldl (fun value c => 10 * value + (c.toNat - 48)) 0

end Querycraft.Text
