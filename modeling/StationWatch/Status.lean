import StationWatch.Json.Written

/-!
# Published values and statuses

What the watch tells the outside: values on channels, with a unit or without, and the status of the
watched thing with an optional detail.

## Main definitions

* `Reading` — a published value.
* `ThingStatus`, `StatusDetail`, `StatusUpdate` — a published status.
* `Announcement` — one or the other.
* `Phase` — how far a poll cycle has come.

## References

`SPEC_FULL.md`, sections 3 and 7.
-/

namespace StationWatch

/-- A published value. -/
inductive Reading
  | quantity (value : Float) (unit : Json)
  | decimal (value : Float)
  deriving Repr, Inhabited

namespace Reading

/-- The number. -/
def value : Reading → Float
  | .quantity value _ => value
  | .decimal value => value

/-- The written form: the number, and a space and the unit where there is one. -/
def text : Reading → RawText
  | .quantity value unit => Decimal.text value ++ " " ++ unit.plain
  | .decimal value => Decimal.text value

/-- A number with the unit of its measurement; a vacant unit counts as none. -/
def ofUnit (value : Float) (unit : Json) : Reading :=
  if unit.isVacant then .decimal value else .quantity value unit

end Reading

/-- The status of the watched thing. -/
inductive ThingStatus
  | online
  | offline
  | unknown
  deriving DecidableEq, Repr, Inhabited

/-- Why a thing has its status. -/
inductive StatusDetail
  | none
  /-- The service cannot be reached or finds no station. -/
  | communicationError
  /-- The settings are invalid. -/
  | configurationError
  deriving DecidableEq, Repr, Inhabited

/-- A published status. -/
structure StatusUpdate where
  status : ThingStatus
  detail : Option StatusDetail
  deriving DecidableEq, Repr, Inhabited

/-- The written form of a status. -/
def ThingStatus.text : ThingStatus → String
  | .online => "ONLINE"
  | .offline => "OFFLINE"
  | .unknown => "UNKNOWN"

/-- The written form of a detail. -/
def StatusDetail.text : StatusDetail → String
  | .none => "NONE"
  | .communicationError => "COMMUNICATION_ERROR"
  | .configurationError => "CONFIGURATION_ERROR"

/-- The thing works. -/
def StatusUpdate.online : StatusUpdate := ⟨.online, none⟩

/-- The thing does not work, for the given reason. -/
def StatusUpdate.offline (detail : Option StatusDetail) : StatusUpdate := ⟨.offline, detail⟩

/-- What is told to the outside at one time. -/
inductive Announcement
  | value (channel : Json) (reading : Reading)
  | status (update : StatusUpdate)
  deriving Repr, Inhabited

/-- How far a poll cycle has come. -/
inductive Phase
  | idle
  | resolving
  | fetching
  /-- The outcome was published. -/
  | publishing
  /-- The outcome was published, and it was a failure to communicate. -/
  | degraded
  deriving DecidableEq, Repr, Inhabited

/-- The written form of a phase. -/
def Phase.text : Phase → String
  | .idle => "idle"
  | .resolving => "resolving"
  | .fetching => "fetching"
  | .publishing => "publishing"
  | .degraded => "degraded"

end StationWatch
