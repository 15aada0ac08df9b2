import StationWatch.Query.Literal
import StationWatch.Query.Path
import StationWatch.Decimal.Numeral

/-!
# The queries of the station watch

Two queries are sent: one lists the locations with something online, the other asks for the latest
observation of the data streams of one station, selected by its name or its identifier.

## Main definitions

* `onlineLocations` — the list query.
* `nameClause`, `idClause` — the two ways to select a station.
* `latestObservation` — the query for one measurement.
* `Fault` — why a query cannot be built.

## References

`SPEC_FULL.md`, sections 4.1 and 4.2.
-/

namespace StationWatch

/-- Telling a fault in other words makes no other difference. -/
theorem Except.mapError_eq_ok_iff {ε ε' α : Type} {f : ε → ε'} {x : Except ε α} {a : α} :
    x.mapError f = .ok a ↔ x = .ok a := by
  cases x with
  | error => exact iff_of_false nofun nofun
  | ok => exact ⟨fun h => by cases h; rfl, fun h => by cases h; rfl⟩

namespace Query

/-- Why a query cannot be built. -/
inductive Fault
  /-- A truth value stands where a literal is needed. -/
  | literal (fault : Literal.Fault)
  /-- An identifier of digits is no whole number. -/
  | identifier (code : RawText) (fault : Decimal.IntegerFault)
  /-- A text that the query is to hold has no bytes. -/
  | encoding (fault : EncodingFault)
  deriving DecidableEq, Repr, Inhabited

/-- The wording of a fault.  A long identifier is cut after two hundred characters. -/
def Fault.message : Fault → String
  | .literal fault => fault.message
  | .identifier code .malformed =>
    "invalid literal for int() with base 10: " ++ String.ofList ((Text.quoted code).take 200)
  | .identifier _ (.tooLong digits) => Decimal.tooLongMessage digits
  | .encoding fault => fault.message

/-- The status of stations that report. -/
def onlineStatus : String := "online"

/-- Observations are limited to those of today and yesterday within the month. -/
def observationWindow : String :=
  "day(now()) sub day(phenomenonTime) le 1 and month(now()) eq month(phenomenonTime)"

/-- The options of the query for all locations with something online. -/
def onlineOptions : List (RawText × RawText) :=
  [("$expand", "Things"),
   ("$filter", "substringof(" ++ Literal.ofString onlineStatus ++ ", Things/properties/status)")]

/-- The query for all locations with something online. -/
def onlineLocations : RawText := (path "Locations" onlineOptions).toOption.get (by decide)

/-- The condition that selects a station by its name. -/
def nameClause (name : RawText) : RawText := "Thing/Locations/name eq " ++ Literal.ofText name

/-- Whether an identifier consists of digits, or of characters that show digits. -/
def isNumeric : RawText → Bool
  | .whole s => !s.isEmpty && s.toList.all Text.isDigitLike
  | .broken _ _ _ => false

/-- The condition that selects a station by its identifier: numbers are written bare. -/
def idClause (code : RawText) : Except Fault RawText :=
  if isNumeric code then
    match Decimal.integer? code.chars with
    | .ok n => .ok ("Thing/Locations/@iot.id eq " ++ toString n)
    | .error fault => .error (.identifier code fault)
  else .ok ("Thing/Locations/@iot.id eq " ++ Literal.ofText code)

/-- The filter expression for the data streams of a station that measure something, from the literal
of what they measure. -/
def streamFilter (literal clause : RawText) : RawText :=
  "substringof(" ++ literal ++ ",name) and Thing/properties/status eq " ++
    Literal.ofString onlineStatus ++ " and " ++ clause

/-- The options of the query for the latest observation of the selected data streams. -/
def latestOptions (literal clause : RawText) : List (RawText × RawText) :=
  [("$top", "1"),
   ("$expand", "Observations($orderby=phenomenonTime desc;$filter=" ++ observationWindow ++ ")"),
   ("$filter", streamFilter literal clause)]

/-- The query for the latest observation of the selected data streams. -/
def latestPath (literal clause : RawText) : Except EncodingFault RawText :=
  path "Datastreams" (latestOptions literal clause)

/-- The query for the latest observation of the data streams of a station whose name holds the
given text. -/
def latestObservation (measured : Json) (clause : RawText) : Except Fault RawText :=
  match Literal.ofJson measured with
  | .ok literal => (latestPath literal clause).mapError .encoding
  | .error fault => .error (.literal fault)

theorem latestObservation_eq_ok_iff {measured : Json} {clause query : RawText} :
    latestObservation measured clause = .ok query ↔ ∃ literal,
      Literal.ofJson measured = .ok literal ∧ latestPath literal clause = .ok query := by
  unfold latestObservation
  cases Literal.ofJson measured with
  | error fault => simp
  | ok literal => simp [Except.mapError_eq_ok_iff]

@[simp] theorem latestObservation_str (measured clause : RawText) :
    latestObservation (.str measured) clause =
      (latestPath (Literal.ofText measured) clause).mapError .encoding := rfl

end Query

end StationWatch
