import StationWatch.Payload
import StationWatch.Instant.Reader

/-!
# The latest observation of a measurement

A response to the query for the latest observation holds data streams, of which the first counts,
and in it observations, of which the first counts.  Its result must be a finite number; the instant
at which it was made may be missing.

## Main definitions

* `Observation` — a reading of one measurement.
* `Observation.ofPayload` — the reading in a response.

## References

`SPEC_FULL.md`, section 4.2.
-/

namespace StationWatch

/-- A reading of one measurement. -/
structure Observation where
  measurement : RawText
  value : Float
  /-- When it was read, if the response says so. -/
  time : Option Instant
  /-- The name of the data stream, as given. -/
  stream : Json
  deriving Repr, Inhabited

namespace Observation

/-- The first item of a field that must be an array with at least one. -/
def first (field : String) (holder : Json) : Except ShapeFault Json :=
  match holder.field field with
  | .arr [] => .error (.emptyArray field)
  | .arr (item :: _) => .ok item
  | _ => .error (.notArray field)

/-- A result as a finite number. -/
def numberOf (result : Json) : Except PayloadFault Float :=
  match result with
  | .bool _ => .error (.shape (.notNumeric result))
  | _ =>
    match result.toReal with
    | .error .tooLarge => .error .tooLarge
    | .error _ => .error (.shape (.notNumeric result))
    | .ok x => if x.isFinite then .ok x else .error (.shape (.notNumeric result))

/-- The instant of an observation; of an interval, its end. -/
def timeOf : Json → Option Instant
  | .str t =>
    ((t.fields '/').getLast?.bind RawText.characters?).bind fun s => Instant.parse? s.toList
  | _ => none

/-- The first data stream of a response and its first observation. -/
def parts (payload : Json) : Except ShapeFault (Json × Json × Json) :=
  match payload with
  | .obj _ =>
    match first "value" payload with
    | .error fault => .error fault
    | .ok (.obj stream) =>
      match first "Observations" (.obj stream) with
      | .error fault => .error fault
      | .ok (.obj observation) =>
        match Json.lookup "result" observation with
        | some result => .ok (.obj stream, .obj observation, result)
        | none => .error .noResult
      | .ok _ => .error .noResult
    | .ok _ => .error .streamNotObject
  | _ => .error .noValues

/-- The reading in a response to the query for a measurement. -/
def ofPayload (payload : Json) (measurement : RawText) : Except PayloadFault Observation :=
  match parts payload with
  | .error fault => .error (.shape fault)
  | .ok (stream, observation, result) =>
    (numberOf result).map fun value =>
      { measurement, value
        time := timeOf (observation.field "phenomenonTime")
        stream := stream.field "name" }

end Observation

end StationWatch
