import StationWatch.Decimal.Binary

/-!
# The shortest decimal form of a double

Numbers are written with the fewest digits that identify them among all doubles, and of those with
the digits nearest to the exact value.  They stand positionally while the exponent of the leading
digit is at least -4 and below 16, with at least one place after the point; beyond that a signed
exponent of two digits or more follows.

## Main definitions

* `Digits` — a decimal number as digits and a power of ten.
* `Binary.identifies` — whether a decimal number rounds to a given double.
* `Binary.shortest` — the digits chosen for a double.
* `text` — the written form.
-/

namespace StationWatch.Decimal

/-- The decimal number `digits * 10 ^ exponent`. -/
structure Digits where
  /-- The digits, as one natural number. -/
  digits : Nat
  /-- The power of ten they are multiplied by. -/
  exponent : Int
  deriving DecidableEq, Repr, Inhabited

/-- Compares `a * 10 ^ i` with `n * 2 ^ j` in whole numbers. -/
def compareScaled (a : Nat) (i : Int) (n : Nat) (j : Int) : Ordering :=
  compare (a * Nat.pow 10 i.toNat * Nat.pow 2 (-j).toNat)
    (n * Nat.pow 2 j.toNat * Nat.pow 10 (-i).toNat)

namespace Binary

/-- Whether a decimal number lies among the reals that round to the double: up to halfway to its
neighbours, the halfway points included when the mantissa is even. -/
def identifies (x : Binary) (d : Digits) : Bool :=
  let lowest := if x.narrowBelow then 4 * x.mantissa - 1 else 4 * x.mantissa - 2
  let highest := 4 * x.mantissa + 2
  let ends := x.mantissa % 2 == 0
  let below := compareScaled d.digits d.exponent lowest (x.exponent - 2)
  let above := compareScaled d.digits d.exponent highest (x.exponent - 2)
  (below == .gt || (ends && below == .eq)) && (above == .lt || (ends && above == .eq))

/-- The least `k` with the magnitude below `10 ^ k`, for a magnitude that is not zero: the digit
counts of numerator and denominator leave two candidates. -/
def scale (x : Binary) : Int :=
  let k : Int := (digitsOf x.numerator).length - (digitsOf x.denominator).length
  if x.numerator * Nat.pow 10 (-k).toNat < x.denominator * Nat.pow 10 k.toNat then k else k + 1

/-- Of the two multiples of `10 ^ e` around the magnitude, the one that identifies the double; if
both do, the nearer one, and at equal distance the even one. -/
def onGrid (x : Binary) (e : Int) : Option Digits :=
  let num := x.numerator * Nat.pow 10 (-e).toNat
  let den := x.denominator * Nat.pow 10 e.toNat
  let low : Digits := ⟨num / den, e⟩
  let high : Digits := ⟨num / den + 1, e⟩
  match x.identifies low, x.identifies high with
  | false, false => none
  | true, false => some low
  | false, true => some high
  | true, true =>
    match compare (2 * num) ((2 * (num / den) + 1) * den) with
    | .lt => some low
    | .gt => some high
    | .eq => some (if num / den % 2 = 0 then low else high)

/-- The digits of the exact value, which always identify it. -/
def exact (x : Binary) : Digits :=
  if 0 ≤ x.exponent then ⟨x.numerator, 0⟩
  else ⟨x.mantissa * Nat.pow 5 (-x.exponent).toNat, x.exponent⟩

/-- The digits chosen for a double that is not zero: the coarsest decimal grid with a point that
identifies it. -/
def shortest (x : Binary) : Digits :=
  ((List.range 17).findSome? fun n => x.onGrid (x.scale - (n + 1 : Nat))).getD x.exact

end Binary

/-- The same list without its trailing zeros. -/
def dropZeros (ds : List Char) : List Char := (ds.reverse.dropWhile (· == '0')).reverse

/-- An exponent with its sign and at least two digits. -/
def exponentText (e : Int) : List Char :=
  let ds := digitsOf e.natAbs
  (if e < 0 then '-' else '+') :: (if ds.length < 2 then '0' :: ds else ds)

/-- The written form of `0.ds * 10 ^ point`, for digits that neither start nor end with zero. -/
def layout (ds : List Char) (point : Int) : List Char :=
  if -4 < point ∧ point ≤ 16 then
    if point ≤ 0 then '0' :: '.' :: (List.replicate (-point).toNat '0' ++ ds)
    else if ds.length ≤ point.toNat then
      ds ++ List.replicate (point.toNat - ds.length) '0' ++ ['.', '0']
    else ds.take point.toNat ++ '.' :: ds.drop point.toNat
  else
    match ds with
    | [] => []
    | [d] => d :: 'e' :: exponentText (point - 1)
    | d :: rest => d :: '.' :: rest ++ 'e' :: exponentText (point - 1)

/-- The written form of a magnitude. -/
def Binary.magnitudeText (x : Binary) : List Char :=
  if x.mantissa = 0 then ['0', '.', '0']
  else
    let d := x.shortest
    let ds := digitsOf d.digits
    layout (dropZeros ds) (ds.length + d.exponent)

/-- The written form of a double. -/
def text (x : Float) : String :=
  match shapeOf x with
  | .notANumber => "nan"
  | .infinite negative => if negative then "-inf" else "inf"
  | .finite value =>
    String.ofList (if value.negative then '-' :: value.magnitudeText else value.magnitudeText)

end StationWatch.Decimal
