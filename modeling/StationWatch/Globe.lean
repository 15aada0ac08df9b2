import StationWatch.Decimal.Shortest
import StationWatch.Decimal.Numeral
import StationWatch.Text.Blank
import StationWatch.Text.Quoted

/-!
# Places on the globe

A handler watches one place, given as latitude and longitude in degrees.  Distances follow the great
circle on a sphere.

## Main definitions

* `ReferencePoint` — the watched place.
* `ReferencePoint.parse` — the place that a setting names.
* `greatCircle` — the distance of two places in kilometres.

## References

`SPEC_FULL.md`, sections 3 and 4.1.
-/

namespace StationWatch

/-- A fixed place, in degrees. -/
structure ReferencePoint where
  /-- Degrees north of the equator. -/
  latitude : Float
  /-- Degrees east of the prime meridian. -/
  longitude : Float
  deriving Repr, Inhabited

/-- Why a setting names no place. -/
inductive LocationFault
  | missing
  /-- The setting has not two or three parts. -/
  | malformed (text : RawText)
  | notNumeric (text : RawText)
  | outOfRange (text : RawText)
  deriving DecidableEq, Repr, Inhabited

/-- The wording of a fault. -/
def LocationFault.message : LocationFault → String
  | .missing => "Reference location is mandatory"
  | .malformed text =>
    "Reference location must be 'lat,lon' or 'lat,lon,alt', got " ++ Text.mention text
  | .notNumeric text => "Reference location is not numeric: " ++ Text.mention text
  | .outOfRange text => "Reference location out of range: " ++ Text.mention text

/-- Whether two numbers are a latitude and a longitude; not-a-number is neither. -/
def inRange (latitude longitude : Float) : Bool :=
  (-90.0 ≤ latitude && latitude ≤ 90.0) && (-180.0 ≤ longitude && longitude ≤ 180.0)

namespace ReferencePoint

/-- The written form: latitude and longitude with a comma between them. -/
def text (p : ReferencePoint) : String :=
  Decimal.text p.latitude ++ "," ++ Decimal.text p.longitude

/-- The numbers of all parts, if each part is one. -/
def numbers? (parts : List RawText) : Option (List Float) := parts.mapM RawText.real?

/-- The place that a setting names: latitude and longitude, and an altitude that must be a number
but does not count. -/
def parse (text : RawText) : Except LocationFault ReferencePoint :=
  if text.strip.isEmpty then .error .missing
  else
    let parts := (text.fields ',').map RawText.strip
    if parts.length ≠ 2 ∧ parts.length ≠ 3 then .error (.malformed text)
    else
      match numbers? parts with
      | some (latitude :: longitude :: _) =>
        if inRange latitude longitude then .ok ⟨latitude, longitude⟩ else .error (.outOfRange text)
      | _ => .error (.notNumeric text)

/-- The place that an optional setting names. -/
def parse? : Option RawText → Except LocationFault ReferencePoint
  | none => .error .missing
  | some text => parse text

end ReferencePoint

/-! ### Distances -/

/-- The mean radius of the globe in kilometres. -/
def globeRadius : Float := 6371.0

/-- An angle in radians. -/
def radians (degrees : Float) : Float := degrees * (3.141592653589793 / 180.0)

/-- An operation met a number outside its domain. -/
inductive DomainFault
  /-- A sine or cosine of an infinity, or a root of a negative number. -/
  | outside
  deriving DecidableEq, Repr, Inhabited

/-- The wording of a fault. -/
def DomainFault.message : DomainFault → String
  | .outside => "math domain error"

/-- The half chord of the great circle between two places, squared; never above one, whatever
rounding does, and one if there is no number. -/
def halfChordSquared (lat₁ lon₁ lat₂ lon₂ : Float) : Float :=
  let a :=
    Float.pow (Float.sin (radians (lat₂ - lat₁) / 2.0)) 2.0 +
      Float.cos (radians lat₁) * Float.cos (radians lat₂) *
        Float.pow (Float.sin (radians (lon₂ - lon₁) / 2.0)) 2.0
  if a < 1.0 then a else 1.0

/-- The distance of two places in kilometres along the great circle.  The cosine of a latitude in
range is not below zero, so only a place out of range can ask for the root of a negative number. -/
def greatCircle (lat₁ lon₁ lat₂ lon₂ : Float) : Except DomainFault Float :=
  let angles := [radians (lat₂ - lat₁), radians lat₁, radians lat₂, radians (lon₂ - lon₁)]
  if angles.any Float.isInf then .error .outside
  else
    let a := halfChordSquared lat₁ lon₁ lat₂ lon₂
    if !(inRange lat₁ lon₁ && inRange lat₂ lon₂) && a < 0.0 then .error .outside
    else .ok (globeRadius * (2.0 * Float.atan2 (Float.sqrt a) (Float.sqrt (1.0 - a))))

/-- The distances from a place to each of a list of places. -/
def distancesFrom (p : ReferencePoint) (places : List (Float × Float)) :
    Except DomainFault (List Float) :=
  places.mapM fun place => greatCircle p.latitude p.longitude place.1 place.2

end StationWatch
