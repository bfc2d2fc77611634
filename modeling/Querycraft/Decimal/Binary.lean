/-
  Querycraft.Decimal.Binary — floating-point numbers as exact fractions, and back.

  A finite number is a significand times a power of two. `Binary.ofFloat` takes a float
  apart, and `nearest` is the number of a format closest to a fraction, a half going to
  the even significand; both work on natural numbers alone. Reading a decimal, the
  remainder of a division and narrowing to 32 bits are all `nearest` of some fraction.
-/

namespace Querycraft.Decimal

/-- A binary interchange format: significand width with its leading bit, exponent of the
    last place of the smallest numbers, width of the exponent field. -/
structure Format where
  precision : Nat
  minExponent : Int
  exponentWidth : Nat

def double : Format := ⟨53, -1074, 11⟩

def single : Format := ⟨24, -149, 8⟩

namespace Format

def infinityBits (format : Format) : Nat :=
  (Nat.pow 2 format.exponentWidth - 1) * Nat.pow 2 (format.precision - 1)

def nanBits (format : Format) : Nat := format.infinityBits + Nat.pow 2 (format.precision - 2)

def signBit (format : Format) : Nat :=
  Nat.pow 2 (format.exponentWidth + format.precision - 1)

end Format

/-- `numerator / denominator` times a power of ten or of two is a pair of naturals. -/
def scale (base : Nat) (numerator denominator : Nat) (exponent : Int) : Nat × Nat :=
  if exponent < 0 then (numerator, denominator * Nat.pow base exponent.natAbs)
  else (numerator * Nat.pow base exponent.natAbs, denominator)

def roundHalfEven (numerator denominator : Nat) : Nat :=
  let quotient := numerator / denominator
  let twice := 2 * (numerator % denominator)
  if twice < denominator then quotient
  else if denominator < twice then quotient + 1
  else if quotient % 2 = 0 then quotient else quotient + 1

def leadingExponent (numerator denominator : Nat) : Int :=
  let guess : Int := (numerator.log2 : Int) - denominator.log2
  let (n, d) := scale 2 numerator denominator (-guess)
  if n < d then guess - 1 else guess

/-- The bits, without a sign, of the number of the format nearest to a fraction. The
    bits of a number count its place among the numbers, so a significand that rounds
    up to the next power of two needs no case of its own. -/
def nearestBits (format : Format) (numerator denominator : Nat) : Nat :=
  if numerator = 0 then 0
  else
    let last := max format.minExponent
      (leadingExponent numerator denominator - (format.precision - 1 : Nat))
    let (n, d) := scale 2 numerator denominator (-last)
    let binade := (last - format.minExponent).toNat * Nat.pow 2 (format.precision - 1)
    min (binade + roundHalfEven n d) format.infinityBits

inductive Binary where
  | nan
  | infinite (negative : Bool)
  /-- The significand times two to the exponent. -/
  | finite (negative : Bool) (significand : Nat) (exponent : Int)
  deriving DecidableEq

def Binary.ofBits (format : Format) (bits : Nat) : Binary :=
  let negative := decide (format.signBit ≤ bits)
  let magnitude := bits % format.signBit
  let unit := Nat.pow 2 (format.precision - 1)
  let field := magnitude / unit
  if magnitude > format.infinityBits then .nan
  else if magnitude = format.infinityBits then .infinite negative
  else if field = 0 then .finite negative magnitude format.minExponent
  else .finite negative (magnitude % unit + unit) (format.minExponent + (field - 1 : Nat))

def Binary.ofFloat (f : Float) : Binary := Binary.ofBits double f.toBits.toNat

def Binary.toBits (format : Format) : Binary → Nat
  | .nan => format.nanBits
  | .infinite negative => (if negative then format.signBit else 0) + format.infinityBits
  | .finite negative significand exponent =>
    let (n, d) := scale 2 significand 1 exponent
    (if negative then format.signBit else 0) + nearestBits format n d

def Binary.toFloat (b : Binary) : Float := Float.ofBits (b.toBits double).toUInt64

def nearest (negative : Bool) (numerator denominator : Nat) : Float :=
  let sign := if negative then double.signBit else 0
  Float.ofBits (sign + nearestBits double numerator denominator).toUInt64

def narrow (f : Float) : Nat := (Binary.ofFloat f).toBits single

def widen (bits : Nat) : Float := (Binary.ofBits single bits).toFloat

/-- The remainder of a division whose quotient is truncated: exact, with the sign of the
    dividend. -/
def remainder (a b : Float) : Float :=
  match Binary.ofFloat a, Binary.ofFloat b with
  | .nan, _ | _, .nan | .infinite _, _ => Float.ofBits double.nanBits.toUInt64
  | .finite .., .infinite _ => a
  | .finite negative m p, .finite _ n q =>
    if n = 0 then Float.ofBits double.nanBits.toUInt64
    else
      let unit := min p q
      let left := m * Nat.pow 2 (p - unit).toNat
      let right := n * Nat.pow 2 (q - unit).toNat
      (Binary.finite negative (left % right) unit).toFloat

end Querycraft.Decimal
