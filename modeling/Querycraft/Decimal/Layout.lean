/-
  Querycraft.Decimal.Layout — how a float is written.

  Two layouts of the shortest digits. `plain` never uses an exponent and drops the point
  of a whole number. `document` is the layout of data documents: an exponent of the
  first digit from -5 to 15 is written in place, always with a point, and any other in
  scientific form with a signed exponent.
-/

import Querycraft.Decimal.Shortest

namespace Querycraft.Decimal

private def zeros (n : Nat) : List Char := List.replicate n '0'

/-- The digits in place: the point stands inside them, before them or after them.
    `whole` is written after a number that needs no point. -/
def positional (d : Digits) (whole : List Char) : List Char :=
  if d.leading < 0 then
    '0' :: '.' :: zeros (d.leading.natAbs - 1) ++ d.digits
  else
    let before := d.leading.toNat + 1
    if d.digits.length ≤ before then d.digits ++ zeros (before - d.digits.length) ++ whole
    else d.digits.take before ++ '.' :: d.digits.drop before

def scientific (d : Digits) : List Char :=
  let fraction := match d.digits.drop 1 with
    | [] => []
    | rest => '.' :: rest
  let sign := if d.leading < 0 then '-' else '+'
  d.digits.take 1 ++ fraction ++ 'e' :: sign :: (toString d.leading.natAbs).toList

private def signed (negative : Bool) (text : List Char) : String :=
  String.ofList (if negative then '-' :: text else text)

/-- A float in full, without an exponent; a tie between two shortest forms goes up. -/
def plain (f : Float) : String :=
  match Binary.ofFloat f with
  | .nan => "NaN"
  | .infinite negative => if negative then "-inf" else "inf"
  | .finite negative 0 _ => signed negative ['0']
  | .finite negative significand exponent =>
    signed negative (positional (shortest double .up significand exponent) [])

/-- A finite float as data documents write it; a tie goes to the even digit. Other
    floats have no form there. -/
def document? (f : Float) : Option String :=
  match Binary.ofFloat f with
  | .nan | .infinite _ => none
  | .finite negative 0 _ => some (signed negative ['0', '.', '0'])
  | .finite negative significand exponent =>
    let d := shortest double .toEven significand exponent
    some (signed negative
      (if -5 ≤ d.leading ∧ d.leading < 16 then positional d ['.', '0'] else scientific d))

end Querycraft.Decimal
