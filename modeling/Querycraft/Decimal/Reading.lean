/-
  Querycraft.Decimal.Reading — decimal text as the nearest float.

  A decimal is digits with an optional point and an optional power of ten. `nearestTen`
  rounds it once, from the exact fraction; exponents far outside the range of floats
  are answered without computing the fraction.
-/

import Querycraft.Decimal.Binary
import Querycraft.Text.Digit

namespace Querycraft.Decimal

open Text (takeDigits digitsValue)

def nearestTenBits (format : Format) (digits : Nat) (exponent : Int) : Nat :=
  let size := (toString digits).length
  if digits = 0 ∨ exponent + size < -400 then 0
  else if 400 < exponent + size then format.infinityBits
  else
    let (n, d) := scale 10 digits 1 exponent
    nearestBits format n d

def nearestTen (negative : Bool) (digits : Nat) (exponent : Int) : Float :=
  Float.ofBits
    ((if negative then double.signBit else 0) + nearestTenBits double digits exponent).toUInt64

structure Written where
  digits : Nat
  exponent : Int

def readSign : List Char → Bool × List Char
  | '-' :: rest => (true, rest)
  | '+' :: rest => (false, rest)
  | cs => (false, cs)

def readExponent? : List Char → Option Int
  | [] => some 0
  | c :: rest =>
    if c = 'e' ∨ c = 'E' then
      let (negative, rest) := readSign rest
      if rest.isEmpty ∨ !rest.all Char.isDigit then none
      else some (if negative then -(digitsValue rest : Int) else digitsValue rest)
    else none

/-- A decimal text: digits with at most one point among them, an exponent or none. -/
def read? (cs : List Char) : Option Written :=
  let (whole, rest) := takeDigits cs
  let (fraction, rest) := match rest with
    | '.' :: rest => takeDigits rest
    | rest => ([], rest)
  if whole.isEmpty && fraction.isEmpty then none
  else (readExponent? rest).map fun exponent =>
    { digits := digitsValue (whole ++ fraction), exponent := exponent - fraction.length }

/-- The bits of what is no number but has a name, in letters of either case. -/
def namedBits? (format : Format) (name : List Char) : Option Nat :=
  match String.ofList (name.map Char.toLower) with
  | "nan" => some format.nanBits
  | "inf" | "infinity" => some format.infinityBits
  | _ => none

/-- The bits of the number of the format nearest to a decimal text, which may also name
    infinity or not-a-number. -/
def bitsOfText? (format : Format) (text : String) : Option Nat :=
  let (negative, cs) := readSign text.toList
  let bits? := (namedBits? format cs).orElse fun _ =>
    (read? cs).map fun w => nearestTenBits format w.digits w.exponent
  bits?.map fun bits => (if negative then format.signBit else 0) + bits

def ofText? (text : String) : Option Float :=
  (bitsOfText? double text).map fun bits => Float.ofBits bits.toUInt64

def ofShortText? (text : String) : Option Float := (bitsOfText? single text).map widen

end Querycraft.Decimal
