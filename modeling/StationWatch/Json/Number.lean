import StationWatch.Json.Written
import StationWatch.Decimal.Numeral

/-!
# JSON values as numbers

Coordinates, results and placeholders may be numbers or texts that read as numbers; truth values
count as one and zero.  Whole numbers beyond all doubles are refused.

## Main definitions

* `Json.toReal` — the double that a value stands for.
* `NumberFault` — why there is none.
-/

namespace StationWatch

/-- Why a value stands for no double. -/
inductive NumberFault
  | notNumeric (text : RawText)
  /-- The whole number is beyond all doubles. -/
  | tooLarge
  | wrongKind (kind : String)
  deriving DecidableEq, Repr, Inhabited

/-- The wording of a fault. -/
def NumberFault.message : NumberFault → String
  | .notNumeric text => "could not convert string to float: " ++ Text.mention text
  | .tooLarge => "int too large to convert to float"
  | .wrongKind kind =>
    "float() argument must be a string or a real number, not \x27" ++ kind ++ "\x27"

/-- The double that a value stands for. -/
def Json.toReal : Json → Except NumberFault Float
  | .bool b => .ok (if b then 1.0 else 0.0)
  | .int n => (Decimal.ofInt? n).elim (.error .tooLarge) .ok
  | .float x => .ok x
  | .str t => t.real?.elim (.error (.notNumeric t)) .ok
  | j => .error (.wrongKind j.kindName)

end StationWatch
