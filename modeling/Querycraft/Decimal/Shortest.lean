/-
  Querycraft.Decimal.Shortest — the fewest digits that read back as the same number.

  The fractions that round to a number form an interval around it; its ends belong to it
  when the significand is even. Of the decimals in that interval those with the fewest
  digits are taken, of these the nearest to the number, and two that are equally near
  are settled by a rule of the caller.
-/

import Querycraft.Decimal.Binary

namespace Querycraft.Decimal

inductive Tie where
  | toEven
  | up
  deriving DecidableEq

/-- A positive decimal: its digits as a natural number that does not end in zero, and
    the power of ten of the first digit. -/
structure Digits where
  digits : List Char
  leading : Int
  deriving DecidableEq

structure Interval where
  low : Nat
  middle : Nat
  high : Nat
  closed : Bool

/-- The lower half is shorter at a power of two, where the numbers below lie closer. -/
def Interval.around (format : Format) (significand : Nat) (exponent : Int) : Interval :=
  let atPower := significand = Nat.pow 2 (format.precision - 1) ∧ format.minExponent < exponent
  { low := 4 * significand - (if atPower then 1 else 2)
    middle := 4 * significand
    high := 4 * significand + 2
    closed := significand % 2 = 0 }

def Interval.holds (i : Interval) (numerator denominator : Nat) : Bool :=
  let low := i.low * denominator
  let high := i.high * denominator
  if i.closed then low ≤ numerator && numerator ≤ high else low < numerator && numerator < high

def leadingPower (numerator denominator : Nat) : Int :=
  if denominator ≤ numerator then ((toString (numerator / denominator)).length : Int) - 1
  else
    let places := (toString (denominator / numerator)).length
    if numerator * Nat.pow 10 (places - 1) = denominator then -((places : Int) - 1) else -(places : Int)

/-- The point of the grid `10 ^ power` that stands for the number, if one of its two
    neighbours on the grid reads back. The number is `i.middle · 2 ^ exponent`. -/
def Interval.onGrid (i : Interval) (exponent : Int) (tie : Tie) (power : Int) : Option Nat :=
  -- a grid point p, in quarters of the last place, is p · 10 ^ power / 2 ^ exponent
  let (n₁, d₁) := scale 10 1 1 power
  let (stepN, stepD) := scale 2 n₁ d₁ (-exponent)
  let below := i.middle * stepD / stepN
  let holds (point : Nat) : Bool := i.holds (point * stepN) stepD
  match decide (0 < below) && holds below, holds (below + 1) with
  | false, false => none
  | true, false => some below
  | false, true => some (below + 1)
  | true, true =>
    let toBelow := i.middle * stepD - below * stepN
    let toAbove := (below + 1) * stepN - i.middle * stepD
    if toBelow < toAbove then some below
    else if toAbove < toBelow then some (below + 1)
    else match tie with
      | .up => some (below + 1)
      | .toEven => some (if below % 2 = 0 then below else below + 1)

def stripZeros (digits : List Char) : List Char :=
  (digits.reverse.dropWhile (· == '0')).reverse

/-- The shortest decimal of the positive number `significand · 2 ^ exponent`: seventeen
    digits always suffice for a double. -/
def shortest (format : Format) (tie : Tie) (significand : Nat) (exponent : Int) : Digits :=
  let i := Interval.around format significand exponent
  let (n, d) := scale 2 significand 1 exponent
  let leading := leadingPower n d
  let found := (List.range 17).findSome? fun (k : Nat) =>
    let power := leading - (k : Int)
    (i.onGrid (exponent - 2) tie power).map fun point => (point, power)
  match found with
  | some (point, power) =>
    let text := (toString point).toList
    { digits := stripZeros text, leading := power + (text.length : Int) - 1 }
  | none => { digits := ['0'], leading := 0 }

end Querycraft.Decimal
