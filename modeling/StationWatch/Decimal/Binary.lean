/-!
# The exact value of a double

A finite double is a sign and a natural number times a power of two.  Printing it in decimal, to the
shortest form or to a fixed number of places, works on these whole numbers alone.

## Main definitions

* `Binary` — sign, mantissa and exponent of a finite double.
* `Shape` — a double as not-a-number, an infinity or a finite value.
* `Binary.numerator`, `Binary.denominator` — the magnitude as a fraction.
-/

namespace StationWatch.Decimal

/-- A finite double: `mantissa * 2 ^ exponent` with a sign. -/
structure Binary where
  /-- Whether the sign bit is set, also for zero. -/
  negative : Bool
  mantissa : Nat
  /-- The power of two that the mantissa is multiplied by. -/
  exponent : Int
  /-- Whether the next double towards zero is half as far away as the next one upwards. -/
  narrowBelow : Bool
  deriving DecidableEq, Repr, Inhabited

/-- What a double stands for. -/
inductive Shape
  | notANumber
  | infinite (negative : Bool)
  | finite (value : Binary)
  deriving DecidableEq, Repr, Inhabited

/-- The reading of the 64 bits of a double. -/
def Shape.ofBits (bits : UInt64) : Shape :=
  let negative := bits >>> 63 == 1
  let biased := ((bits >>> 52) &&& 0x7FF).toNat
  let fraction := (bits &&& 0xFFFFFFFFFFFFF).toNat
  if biased = 0x7FF then
    if fraction = 0 then .infinite negative else .notANumber
  else if biased = 0 then .finite ⟨negative, fraction, -1074, false⟩
  else
    .finite
      { negative
        mantissa := Nat.pow 2 52 + fraction
        exponent := (biased : Int) - 1075
        narrowBelow := fraction == 0 && biased > 1 }

/-- What a double stands for. -/
def shapeOf (x : Float) : Shape := Shape.ofBits x.toBits

namespace Binary

/-- The magnitude is `numerator / denominator`. -/
def numerator (x : Binary) : Nat := x.mantissa * Nat.pow 2 x.exponent.toNat

/-- The magnitude is `numerator / denominator`; the denominator is a power of two. -/
def denominator (x : Binary) : Nat := Nat.pow 2 (-x.exponent).toNat

/-- Whether the exact value is the given whole number; both zeros are zero. -/
def isInt (x : Binary) (n : Int) : Bool :=
  x.numerator == n.natAbs * x.denominator && (n == 0 || x.negative == decide (n < 0))

end Binary

/-- Whether the exact value of a double is the given whole number. -/
def equalsInt (x : Float) (n : Int) : Bool :=
  match shapeOf x with
  | .finite value => value.isInt n
  | _ => false

/-- The decimal digits of a natural number. -/
def digitsOf (n : Nat) : List Char := Nat.toDigits 10 n

end StationWatch.Decimal
