/-
  Querycraft.Calendar — days and instants of the proleptic Gregorian calendar.

  A year from 0 to 9999 is written with four digits, any other with its sign and at
  least four. `Date.dayNumber` counts days from the first of January 2000, and an
  instant counts microseconds from its midnight. A leap second has no number of its own:
  it is the second before it, a billion nanoseconds on.
-/

namespace Querycraft

structure Date where
  year : Int
  month : Nat
  day : Nat
  deriving DecidableEq

/-- An instant in universal time. A billion nanoseconds or more lie in a leap second. -/
structure Timestamp where
  date : Date
  hour : Nat
  minute : Nat
  second : Nat
  nanosecond : Nat
  deriving DecidableEq

namespace Calendar

def padded (width n : Nat) : String :=
  let digits := toString n
  String.ofList (List.replicate (width - digits.length) '0') ++ digits

def yearText (year : Int) : String :=
  if 0 ≤ year ∧ year ≤ 9999 then padded 4 year.toNat
  else (if year < 0 then "-" else "+") ++ padded 4 year.natAbs

end Calendar

namespace Date

open Calendar

def toText (d : Date) : String :=
  yearText d.year ++ "-" ++ padded 2 d.month ++ "-" ++ padded 2 d.day

/-- Days since 2000-01-01. Years are counted from March, so that a leap day is the last
    day of its year; 306 days lie between March and the new year. -/
def dayNumber (d : Date) : Int :=
  let year := if d.month ≤ 2 then d.year - 1 else d.year
  let month := (d.month + 9) % 12
  let era := Int.fdiv year 400
  let yearOfEra := year - era * 400
  let dayOfYear : Int := ((153 * month + 2) / 5 + d.day - 1 : Nat)
  let dayOfEra := yearOfEra * 365 + Int.fdiv yearOfEra 4 - Int.fdiv yearOfEra 100 + dayOfYear
  era * 146097 + dayOfEra - 730425

end Date

namespace Timestamp

open Calendar

/-- The fraction of a second in the fewest groups of three digits that hold it. -/
def fractionText (nanosecond : Nat) : String :=
  if nanosecond = 0 then ""
  else if nanosecond % 1000000 = 0 then "." ++ padded 3 (nanosecond / 1000000)
  else if nanosecond % 1000 = 0 then "." ++ padded 6 (nanosecond / 1000)
  else "." ++ padded 9 nanosecond

/-- Date and time of day; the zone is written behind it. A leap second is the sixtieth of
    its minute. -/
def toText (t : Timestamp) (zone : String) : String :=
  t.date.toText ++ "T" ++ padded 2 t.hour ++ ":" ++ padded 2 t.minute ++ ":"
    ++ padded 2 (t.second + t.nanosecond / 1000000000)
    ++ fractionText (t.nanosecond % 1000000000) ++ zone

/-- Microseconds since 2000-01-01, the rest of a microsecond cut off toward that day. -/
def microseconds (t : Timestamp) : Int :=
  let seconds : Int := t.date.dayNumber * 86400 + (t.hour * 3600 + t.minute * 60 + t.second : Nat)
  Int.tdiv (seconds * 1000000000 + t.nanosecond) 1000

end Timestamp

end Querycraft
