import StationWatch.Payload

/-!
# Stations and the nearest one

The list of locations is read entry by entry: an entry without an identifier or without usable
coordinates is passed over, all others become stations.  Coordinates come longitude first.  The
stations are put in order of their distance from the watched place, equal distances in the order of
the response.

## Main definitions

* `Station`, `RankedStation` — a station, without and with its distance.
* `Station.ofEntry` — the station of one entry.
* `Station.ofPayload` — all stations of a response.
* `rank` — the stations with their distances, nearest first.
* `nearest` — the first of them.

## References

`SPEC_FULL.md`, sections 3 and 4.1.
-/

namespace StationWatch

/-- A station that reports. -/
structure Station where
  /-- The identifier, always as text. -/
  siteCode : RawText
  siteName : RawText
  latitude : Float
  longitude : Float
  deriving Repr, Inhabited

/-- A station with its distance from the watched place. -/
structure RankedStation extends Station where
  /-- Kilometres along the great circle. -/
  distance : Float
  deriving Repr, Inhabited

/-- What becomes of one entry of the list of locations. -/
inductive Entry
  | station (station : Station)
  | skipped
  /-- A coordinate is beyond all doubles. -/
  | tooLarge
  deriving Repr, Inhabited

namespace Station

/-- The identifier of an entry, unless it is missing, an array or an object. -/
def codeOf? (entry : Json) : Option RawText :=
  match entry.field "@iot.id" with
  | .null => none
  | .arr _ => none
  | .obj _ => none
  | code => some code.plain

/-- The name of an entry; a missing or vacant one is empty. -/
def nameOf (entry : Json) : RawText :=
  let name := entry.field "name"
  if name.isVacant then "" else name.plain

/-- The first two coordinates of an entry, in the order of the response: longitude, latitude.
Truth values are no coordinates. -/
def coordinatesOf? (entry : Json) : Option (Json × Json) :=
  match entry.field "location" with
  | .obj members =>
    match Json.field "coordinates" (.obj members) with
    | .arr (longitude :: latitude :: _) =>
      if longitude.isTruthValue || latitude.isTruthValue then none else some (longitude, latitude)
    | _ => none
  | _ => none

/-- The station of an entry with the given identifier, name and coordinates. -/
def place (code name : RawText) (longitude latitude : Json) : Entry :=
  match latitude.toReal with
  | .error .tooLarge => .tooLarge
  | .error _ => .skipped
  | .ok lat =>
    match longitude.toReal with
    | .error .tooLarge => .tooLarge
    | .error _ => .skipped
    | .ok lon => if inRange lat lon then .station ⟨code, name, lat, lon⟩ else .skipped

/-- What becomes of an entry. -/
def ofEntry (entry : Json) : Entry :=
  match codeOf? entry, coordinatesOf? entry with
  | some code, some (longitude, latitude) => place code (nameOf entry) longitude latitude
  | _, _ => .skipped

/-- The entries of a list of locations. -/
def entries (payload : Json) : Except ShapeFault (List Json) :=
  match payload.field "value" with
  | .arr items => .ok items
  | _ => .error .noValues

/-- The stations of a list of entries; a coordinate beyond all doubles spoils the whole list. -/
def ofEntries : List Json → Except PayloadFault (List Station)
  | [] => .ok []
  | entry :: rest =>
    match ofEntry entry with
    | .station station => (ofEntries rest).map (station :: ·)
    | .skipped => ofEntries rest
    | .tooLarge => .error .tooLarge

/-- The stations of a response. -/
def ofPayload (payload : Json) : Except PayloadFault (List Station) :=
  match entries payload with
  | .ok items => ofEntries items
  | .error fault => .error (.shape fault)

/-- The malformed entries that are passed over while the stations of a list are read. -/
def skippedEntries : List Json → List Json
  | [] => []
  | entry :: rest =>
    match ofEntry entry with
    | .station _ => skippedEntries rest
    | .skipped => entry :: skippedEntries rest
    | .tooLarge => []

end Station

/-! ### Order by distance -/

/-- Whether a station may stand before another one: it is not farther away.  Without a number the
distance counts as farthest. -/
def RankedStation.notFarther (a b : RankedStation) : Bool :=
  b.distance.isNaN || a.distance ≤ b.distance

/-- A station put before the first one that is not nearer. -/
def insertByDistance (station : RankedStation) : List RankedStation → List RankedStation
  | [] => [station]
  | other :: rest =>
    if station.notFarther other then station :: other :: rest
    else other :: insertByDistance station rest

/-- Stations in order of their distance, equal distances in their given order. -/
def sortByDistance : List RankedStation → List RankedStation
  | [] => []
  | station :: rest => insertByDistance station (sortByDistance rest)

/-- Each station with its distance from a place. -/
def withDistances (p : ReferencePoint) :
    List Station → Except DomainFault (List RankedStation)
  | [] => .ok []
  | station :: rest =>
    match greatCircle p.latitude p.longitude station.latitude station.longitude with
    | .error fault => .error fault
    | .ok distance => (withDistances p rest).map (⟨station, distance⟩ :: ·)

/-- The stations with their distances from a place, nearest first; there must be at least one. -/
def rank (p : ReferencePoint) (stations : List Station) :
    Except PayloadFault (List RankedStation) :=
  if stations.isEmpty then .error (.shape .noStation)
  else
    match withDistances p stations with
    | .ok ranked => .ok (sortByDistance ranked)
    | .error fault => .error (.distance fault)

/-- The first of the stations. -/
def nearest : List RankedStation → Except ShapeFault RankedStation
  | [] => .error .emptyIndex
  | station :: _ => .ok station

end StationWatch
