import StationWatch.Measurement
import StationWatch.Survey

/-!
# The poll cycle

One cycle looks up the nearest station, reads every configured measurement in order and ends with an
outcome.  The first failure ends it.  Values are published only if all measurements were read, and
whatever the outcome is, exactly one status follows.

## Main definitions

* `WeatherSettings` — what a cycle is to read.
* `Outcome` — how a cycle ended.
* `Cycle.program` — the cycle as a dialogue.
* `Outcome.update`, `Outcome.announcements`, `Outcome.phase` — what an outcome publishes.

## References

`SPEC_FULL.md`, section 4.3.
-/

namespace StationWatch

/-- What a cycle is to read, and where. -/
structure WeatherSettings where
  /-- The watched place, as written. -/
  location : RawText := ""
  /-- The station that is asked unless the nearest one is. -/
  stationName : RawText := "Dorper Straße / Goerdeler Straße"
  useNearest : Bool := false
  measurements : List RawText := ["TEMPERATURE", "HUMIDITY"]
  deriving DecidableEq, Repr, Inhabited

/-- The part of a cycle in which it failed. -/
inductive Stage
  | resolve
  /-- The reading of the measurements, and everything else. -/
  | fetch
  deriving DecidableEq, Repr, Inhabited

namespace Stage

/-- The name of a stage. -/
def text : Stage → String
  | .resolve => "resolve"
  | .fetch => "fetch"

/-- The stage of a name; only the search for a station stands out. -/
def ofText (name : String) : Stage := if name = "resolve" then .resolve else .fetch

end Stage

/-- Why the values of a response cannot be used. -/
inductive ParseCause
  | fault (fault : Fault)
  | unknownMeasurement (name : RawText)
  deriving Repr, Inhabited

/-- The wording of a cause. -/
def ParseCause.message : ParseCause → RawText
  | .fault f => f.message
  | .unknownMeasurement name => "Unknown measurement " ++ Text.mention name

/-- Values by channel, in the order in which the channels first got one. -/
abbrev ChannelValues := List (Json × Reading)

/-- How a cycle ended. -/
inductive Outcome
  | success (values : ChannelValues) (station : RankedStation)
  /-- The service answered with a status code other than 200. -/
  | httpFailure (code : Int) (stage : Stage)
  /-- No response arrived. -/
  | transportFailure (fault : FetchFault) (stage : Stage)
  | parseFailure (cause : ParseCause) (stage : Stage)
  | configFailure (fault : LocationFault)
  deriving Repr, Inhabited

namespace Outcome

/-- Whether every measurement was read. -/
def isSuccess : Outcome → Bool
  | .success _ _ => true
  | _ => false

/-- The stage in which a cycle failed; success and invalid settings have none. -/
def stage? : Outcome → Option Stage
  | .httpFailure _ stage => some stage
  | .transportFailure _ stage => some stage
  | .parseFailure _ stage => some stage
  | _ => none

/-- The outcome of a request without usable data. -/
def ofFetchFault (fault : FetchFault) (stage : Stage) : Outcome :=
  match fault with
  | .status code _ _ => .httpFailure code stage
  | .timedOut _ _ => .transportFailure fault stage
  | .failed _ => .transportFailure fault stage
  | _ => .parseFailure (.fault (.fetch fault)) stage

/-- The status that an outcome publishes: a failed search for a station is one of communication
whatever its cause, and in the reading only a missing response is. -/
def update (outcome : Outcome) : StatusUpdate :=
  match outcome with
  | .success _ _ => .online
  | .configFailure _ => .offline (some .configurationError)
  | .transportFailure _ _ => .offline (some .communicationError)
  | .httpFailure _ stage =>
    .offline (if stage = .resolve then some .communicationError else none)
  | .parseFailure _ stage =>
    .offline (if stage = .resolve then some .communicationError else none)

/-- The values that an outcome publishes. -/
def values : Outcome → ChannelValues
  | .success values _ => values
  | _ => []

/-- Everything that an outcome publishes: its values, and then its status. -/
def announcements (outcome : Outcome) : List Announcement :=
  (outcome.values.map fun entry => .value entry.1 entry.2) ++ [.status outcome.update]

/-- The phase in which an outcome leaves its cycle. -/
def phase (outcome : Outcome) : Phase :=
  if outcome.update.detail = some .communicationError then .degraded else .publishing

end Outcome

namespace Cycle

/-- A value on a channel: the place of a known channel stays, a new one comes last. -/
def putValue (channel : Json) (reading : Reading) : ChannelValues → ChannelValues
  | [] => [(channel, reading)]
  | entry :: rest =>
    if entry.1.sameKey channel then (entry.1, reading) :: rest
    else entry :: putValue channel reading rest

/-- The condition that selects the station to be asked. -/
def clause (settings : WeatherSettings) (station : RankedStation) : Except Query.Fault RawText :=
  if settings.useNearest then Query.idClause station.siteCode
  else .ok (Query.nameClause settings.stationName)

/-- The query path for a measurement at the station to be asked. -/
def pathFor (settings : WeatherSettings) (m : Measurement) (station : RankedStation) :
    Except Query.Fault RawText :=
  match clause settings station with
  | .ok c => Query.latestObservation m.streamFilter c
  | .error fault => .error fault

/-- The value of one measurement: its placeholder if it has one, otherwise the latest
observation. -/
def read (service : Service) (settings : WeatherSettings) (name : RawText) (m : Measurement)
    (station : RankedStation) : Dialogue (Except Fault Float) :=
  match m.placeholder with
  | .null =>
    match pathFor settings m station with
    | .error fault => pure (.error (.query fault))
    | .ok path => do
      match ← service.latest path name with
      | .ok observation => pure (.ok observation.value)
      | .error fault => pure (.error fault)
  | placeholder => pure (placeholder.toReal.mapError .number)

/-- The measurements still to be read, after those whose values are given. -/
def readAll (service : Service) (registry : Registry) (settings : WeatherSettings)
    (station : RankedStation) : List RawText → ChannelValues → Dialogue (Except Fault Outcome)
  | [], values => pure (.ok (.success values station))
  | name :: names, values =>
    match registry.get? name with
    | none => pure (.ok (.parseFailure (.unknownMeasurement name) .fetch))
    | some m => do
      match ← read service settings name m station with
      | .ok x =>
        if m.channel.isKey then
          readAll service registry settings station names
            (putValue m.channel (.ofUnit x m.unit) values)
        else pure (.error (.unusableKey m.channel.kindName))
      | .error (.fetch fault) =>
        Dialogue.log .warning .root
          ("Could not fetch " ++ name.lower ++ ": " ++ fault.message)
        pure (.ok (.ofFetchFault fault .fetch))
      | .error fault => pure (.error fault)

/-- The nearest station, or why there is none. -/
def findStation (service : Service) (p : ReferencePoint) :
    Dialogue (Except Fault (RankedStation × Nat)) := do
  match ← service.stationsNear p Query.onlineLocations with
  | .error fault => pure (.error fault)
  | .ok stations =>
    match nearest stations with
    | .ok station => pure (.ok (station, stations.length))
    | .error fault => pure (.error (.fetch (.shape fault)))

/-- The station that was found is reported, and the reading begins. -/
def noteStation (station : RankedStation) (count : Nat) : Dialogue Unit := do
  Dialogue.log .debug .poll
    ("Resolved " ++ toString count ++ " online stations, nearest " ++
      Text.mention station.siteName ++ " at " ++ Decimal.fixed 2 station.distance ++ " km")
  Dialogue.enter .fetching

/-- A cycle up to its outcome or to something unexpected. -/
def execute (service : Service) (registry : Registry) (settings : WeatherSettings)
    (p : ReferencePoint) : Dialogue (Except Fault Outcome) := do
  Dialogue.enter .resolving
  match ← findStation service p with
  | .error (.fetch fault) =>
    Dialogue.log .warning .root ("Could not resolve nearest online station: " ++ fault.message)
    pure (.ok (.ofFetchFault fault .resolve))
  | .error fault => pure (.error fault)
  | .ok (station, count) =>
    noteStation station count
    readAll service registry settings station settings.measurements []

/-- A cycle up to its outcome; something unexpected counts as a response that cannot be used. -/
def program (service : Service) (registry : Registry) (settings : WeatherSettings)
    (p : ReferencePoint) : Dialogue Outcome := do
  match ← execute service registry settings p with
  | .ok outcome => pure outcome
  | .error fault =>
    Dialogue.log .error .poll ("Unexpected error during poll cycle: " ++ fault.message)
    pure (.parseFailure (.fault fault) .fetch)

end Cycle

end StationWatch
