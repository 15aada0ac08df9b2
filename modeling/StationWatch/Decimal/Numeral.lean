import StationWatch.Decimal.Binary
import StationWatch.Text.Blank
import StationWatch.Text.Digit

/-!
# Numbers read from text

Whole and decimal numbers in settings and responses may use the digits of any script, blanks around
them, and single underscores between digits.  A whole number has at most 4300 digits; a decimal
number is rounded to the nearest double, far too large ones to an infinity.

## Main definitions

* `real?` — a decimal number, an infinity or not-a-number.
* `integer?` — a whole number.
* `ofInt`, `ofInt?` — the double nearest to a whole number.
* `IntegerFault` — why a text is no whole number.
* `RawText.real?`, `RawText.integer?` — the same for texts from outside.
-/

namespace StationWatch.Decimal

open Text

/-- The largest number of digits that a whole number may be written with. -/
def maxDigits : Nat := 4300

/-- Characters beyond the basic alphabet in their basic form: digits of all scripts as the usual
digits, blanks as spaces, anything else as a character that no numeral holds. -/
def basicForm (c : Char) : Char :=
  if c.toNat < 0x7F then c
  else if isBlank c then ' '
  else
    match digitValue? c with
    | some d => Char.ofNat (48 + d)
    | none => '?'

/-- Blanks that may surround a numeral in its basic form. -/
def isMargin (c : Char) : Bool := c == ' ' || (decide (9 ≤ c.toNat) && decide (c.toNat ≤ 13))

/-- Whether a character is one of the ten usual digits. -/
def isDigit (c : Char) : Bool := decide (48 ≤ c.toNat) && decide (c.toNat ≤ 57)

/-- A text in its basic form without the blanks around it. -/
def numeralText (cs : List Char) : List Char :=
  (((cs.map basicForm).dropWhile isMargin).reverse.dropWhile isMargin).reverse

/-- The value of a list of digits. -/
def valueOf (ds : List Char) : Nat := ds.foldl (fun n d => 10 * n + (d.toNat - 48)) 0

/-- An optional sign, and what follows it. -/
def signed : List Char → Bool × List Char
  | '-' :: cs => (true, cs)
  | '+' :: cs => (false, cs)
  | cs => (false, cs)

/-- The text without its underscores, provided that each stands between two digits.  `afterDigit`
says whether a digit came just before. -/
def dropUnderscores (afterDigit : Bool) : List Char → Option (List Char)
  | [] => some []
  | '_' :: c :: cs =>
    if afterDigit && isDigit c then (dropUnderscores true cs).map (c :: ·) else none
  | ['_'] => none
  | c :: cs => (dropUnderscores (isDigit c) cs).map (c :: ·)

/-! ### Decimal numbers -/

/-- The double nearest to `m * 10 ^ e`.  Exponents far outside the range of doubles are decided by
the place of the leading digit. -/
def nearest (m : Nat) (e : Int) : Float :=
  if m = 0 then 0.0
  else
    let top : Int := (digitsOf m).length + e
    if 400 < top then 1.0 / 0.0
    else if top < -400 then 0.0
    else Float.ofScientific m (decide (e < 0)) e.natAbs

/-- The exponent part of a decimal number, which must be all that is left. -/
def exponentPart? : List Char → Option Int
  | [] => some 0
  | c :: cs =>
    if c = 'e' ∨ c = 'E' then
      let (negative, ds) := signed cs
      if ds.isEmpty || !ds.all isDigit then none
      else some (if negative then -(valueOf ds : Int) else valueOf ds)
    else none

/-- An unsigned decimal number: digits with at most one point, and an exponent. -/
def magnitude? (cs : List Char) : Option Float :=
  let whole := cs.takeWhile isDigit
  let rest := cs.dropWhile isDigit
  let (fraction, rest) :=
    match rest with
    | '.' :: r => (r.takeWhile isDigit, r.dropWhile isDigit)
    | r => ([], r)
  if whole.isEmpty && fraction.isEmpty then none
  else
    (exponentPart? rest).map fun e => nearest (valueOf (whole ++ fraction)) (e - fraction.length)

/-- The names of the values that are no decimal numbers. -/
def named? (cs : List Char) : Option Float :=
  let name := cs.map Char.toLower
  if name = ['i', 'n', 'f'] ∨ name = ['i', 'n', 'f', 'i', 'n', 'i', 't', 'y'] then some (1.0 / 0.0)
  else if name = ['n', 'a', 'n'] then some (0.0 / 0.0)
  else none

/-- A decimal number, an infinity or not-a-number, if the text is one. -/
def real? (cs : List Char) : Option Float :=
  (dropUnderscores false (numeralText cs)).bind fun t =>
    let (negative, t) := signed t
    ((magnitude? t).or (named? t)).map fun x => if negative then -x else x

/-- The double nearest to a whole number, an infinity if that is beyond all doubles. -/
def ofInt (n : Int) : Float :=
  let x := nearest n.natAbs 0
  if n < 0 then -x else x

/-- The double nearest to a whole number, unless that is beyond all doubles. -/
def ofInt? (n : Int) : Option Float :=
  let x := ofInt n
  if x.isInf then none else some x

/-! ### Whole numbers -/

/-- Why a text is no whole number. -/
inductive IntegerFault
  | malformed
  | tooLong (digits : Nat)
  deriving DecidableEq, Repr, Inhabited

/-- The wording for a whole number with more digits than allowed. -/
def tooLongMessage (digits : Nat) : String :=
  "Exceeds the limit (4300 digits) for integer string conversion: value has " ++
    toString digits ++ " digits; use sys.set_int_max_str_digits() to increase the limit"

/-- The digits at the start of a text, with single underscores between them left out, and the rest;
`none` if an underscore stands elsewhere among them. -/
def leadingDigits (afterDigit : Bool) : List Char → Option (List Char × List Char)
  | [] => some ([], [])
  | '_' :: c :: cs =>
    if afterDigit && isDigit c then
      (leadingDigits true cs).map fun r => (c :: r.1, r.2)
    else none
  | ['_'] => none
  | c :: cs =>
    if isDigit c then (leadingDigits true cs).map fun r => (c :: r.1, r.2) else some ([], c :: cs)

/-- A whole number, if the text is one of at most `maxDigits` digits. -/
def integer? (cs : List Char) : Except IntegerFault Int :=
  let (negative, t) := signed (numeralText cs)
  match leadingDigits false t with
  | none => .error .malformed
  | some (ds, rest) =>
    if ds.isEmpty then .error .malformed
    else if maxDigits < ds.length then .error (.tooLong ds.length)
    else if rest.isEmpty then .ok (if negative then -(valueOf ds : Int) else valueOf ds)
    else .error .malformed

end StationWatch.Decimal

namespace StationWatch.RawText

/-- The double that a text stands for; one with a half in it stands for none. -/
def real? (t : RawText) : Option Float := t.characters?.bind fun s => Decimal.real? s.toList

/-- The whole number that a text stands for; one with a half in it stands for none. -/
def integer? (t : RawText) : Option Int :=
  t.characters?.bind fun s => (Decimal.integer? s.toList).toOption

end StationWatch.RawText
