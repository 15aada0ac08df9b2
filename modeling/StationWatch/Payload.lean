import StationWatch.Json.Number
import StationWatch.Globe

/-!
# What can be wrong with a response

A response that is JSON may still not be shaped as its query promises, or hold a number that no
double can stand for.

## Main definitions

* `ShapeFault` — the ways in which a payload has the wrong shape.
* `PayloadFault` — wrong shape, a number beyond all doubles, or a place without a distance.
-/

namespace StationWatch

/-- How a payload misses the shape that its query promises. -/
inductive ShapeFault
  | noValues
  | streamNotObject
  | noResult
  | notArray (field : String)
  | emptyArray (field : String)
  | notNumeric (result : Json)
  | noStation
  | emptyIndex
  deriving Repr, Inhabited

/-- The wording of a fault. -/
def ShapeFault.message : ShapeFault → String
  | .noValues => "Expected an object with a 'value' array"
  | .streamNotObject => "Datastream entry is not an object"
  | .noResult => "Observation entry has no 'result'"
  | .notArray field => "Expected \x27" ++ field ++ "\x27 to be an array"
  | .emptyArray field => "\x27" ++ field ++ "\x27 array is empty"
  | .notNumeric result => "Observation result is not numeric: " ++ result.written
  | .noStation => "No online station with usable coordinates in response"
  | .emptyIndex => "Distance index is empty"

/-- Why a payload yields no stations or no observation. -/
inductive PayloadFault
  | shape (fault : ShapeFault)
  | tooLarge
  | distance (fault : DomainFault)
  deriving Repr, Inhabited

/-- The wording of a fault. -/
def PayloadFault.message : PayloadFault → String
  | .shape fault => fault.message
  | .tooLarge => NumberFault.tooLarge.message
  | .distance fault => fault.message

end StationWatch
