import StationWatch.Service
import StationWatch.Observation
import StationWatch.Station

/-!
# Looking up stations and observations

Two look-ups make up a cycle: the stations that report, nearest first, and the latest observation of
a measurement.

## Main definitions

* `Service.stationsNear` — the stations of a response with their distances, nearest first.
* `Service.latest` — the latest observation behind a query path.

## References

`SPEC_FULL.md`, sections 4.1 and 4.2.
-/

namespace StationWatch

namespace Service

/-- The stations of a payload with their distances from a place, nearest first. -/
def rankPayload (p : ReferencePoint) (payload : Json) :
    Except PayloadFault (List RankedStation) :=
  match Station.ofPayload payload with
  | .ok stations => rank p stations
  | .error fault => .error fault

/-- Every malformed entry of a payload is reported. -/
def noteSkipped : List Json → Dialogue Unit
  | [] => pure ()
  | entry :: rest => do
    Dialogue.log .debug .resolver
      ("Skipping malformed location entry: " ++ excerpt 200 entry.written)
    noteSkipped rest

/-- The nearest station is reported. -/
def noteNearest : List RankedStation → Dialogue Unit
  | [] => pure ()
  | station :: _ => do
    Dialogue.log .debug .resolver
      ("Nearest station @iot.id:" ++ station.siteCode ++ " / " ++ station.siteName)
    Dialogue.log .debug .resolver ("Distance: " ++ Decimal.fixed 3 station.distance ++ " km")

/-- The stations behind a query path with their distances from a place, nearest first. -/
def stationsNear (c : Service) (p : ReferencePoint) (path : RawText) :
    Dialogue (Except Fault (List RankedStation)) := do
  match ← c.fetch path with
  | .error fault => pure (.error fault)
  | .ok payload =>
    noteSkipped (Station.skippedEntries ((Station.entries payload).toOption.getD []))
    match rankPayload p payload with
    | .error fault => pure (.error fault.asFault)
    | .ok stations =>
      noteNearest stations
      pure (.ok stations)

/-- The latest observation behind a query path. -/
def latest (c : Service) (path measurement : RawText) :
    Dialogue (Except Fault Observation) := do
  match ← c.fetch path with
  | .error fault => pure (.error fault)
  | .ok payload =>
    match Observation.ofPayload payload measurement with
    | .error fault => pure (.error fault.asFault)
    | .ok observation =>
      Dialogue.log .debug .observations
        ("Value: " ++ Decimal.text observation.value ++ " (" ++ observation.stream.plain ++ ")")
      pure (.ok observation)

end Service

end StationWatch
