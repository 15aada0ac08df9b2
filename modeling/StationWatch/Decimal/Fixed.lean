import StationWatch.Decimal.Binary

/-!
# Decimal forms with a fixed number of places

Distances are reported with a fixed number of places.  The exact value of the double is rounded; a
value halfway between two candidates goes to the one whose last digit is even.

## Main definitions

* `roundDiv` — a quotient rounded to the nearest natural number.
* `fixed` — a double with a fixed number of places.
-/

namespace StationWatch.Decimal

/-- The natural number nearest to `num / den`, the even one of two equally near. -/
def roundDiv (num den : Nat) : Nat :=
  let q := num / den
  match compare (2 * (num % den)) den with
  | .lt => q
  | .gt => q + 1
  | .eq => if q % 2 = 0 then q else q + 1

/-- Digits with zeros in front, up to a least number. -/
def padZeros (width : Nat) (ds : List Char) : List Char :=
  List.replicate (width - ds.length) '0' ++ ds

/-- A magnitude with a fixed number of places. -/
def Binary.fixedText (x : Binary) (places : Nat) : List Char :=
  let scaled := x.numerator * Nat.pow 10 places
  let ds := padZeros (places + 1) (digitsOf (roundDiv scaled x.denominator))
  ds.take (ds.length - places) ++ '.' :: ds.drop (ds.length - places)

/-- A double with a fixed number of places, at least one. -/
def fixed (places : Nat) (x : Float) : String :=
  match shapeOf x with
  | .notANumber => "nan"
  | .infinite negative => if negative then "-inf" else "inf"
  | .finite value =>
    String.ofList
      (if value.negative then '-' :: value.fixedText places else value.fixedText places)

end StationWatch.Decimal
