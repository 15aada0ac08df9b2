import StationWatch.Calendar
import StationWatch.Decimal.Fixed

/-!
# Instants of observations

An instant is a point in universal time.  It is written as a date and a time of day, with six places
of the second or, where those do not suffice, nine.

## Main definitions

* `Instant` — a point in time, to the nanosecond.
* `Instant.text` — the written form.
-/

namespace StationWatch

/-- A point in universal time. -/
structure Instant where
  /-- Whole seconds since the start of 1970. -/
  seconds : Int
  /-- Nanoseconds into the second. -/
  nanos : Nat
  deriving DecidableEq, Repr, Inhabited

namespace Instant

/-- A number with at least `width` digits. -/
def padded (width : Nat) (n : Nat) : String :=
  String.ofList (Decimal.padZeros width (Decimal.digitsOf n))

/-- A year with at least four characters, a minus sign being one of them. -/
def yearText (year : Int) : String :=
  if year < 0 then "-" ++ padded 3 year.natAbs else padded 4 year.natAbs

/-- The written form in universal time. -/
def text (t : Instant) : String :=
  let (year, month, day) := Calendar.dateOf (t.seconds / 86400 + Calendar.epochDay)
  let time := (t.seconds % 86400).toNat
  let fraction :=
    if t.nanos = 0 then ""
    else if t.nanos % 1000 = 0 then "." ++ padded 6 (t.nanos / 1000)
    else "." ++ padded 9 t.nanos
  yearText year ++ "-" ++ padded 2 month.toNat ++ "-" ++ padded 2 day.toNat ++ "T" ++
    padded 2 (time / 3600) ++ ":" ++ padded 2 (time / 60 % 60) ++ ":" ++ padded 2 (time % 60) ++
    fraction ++ "+00:00"

end Instant

end StationWatch
