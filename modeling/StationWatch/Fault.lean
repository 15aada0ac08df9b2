import StationWatch.Json.Reader
import StationWatch.Network
import StationWatch.Payload
import StationWatch.Query.Shapes

/-!
# Why a cycle cannot go on

A request may yield no usable data: that is expected, and what went wrong is published.  Everything
else is unexpected, and only the cycle as a whole deals with it.

## Main definitions

* `FetchFault` — a request that yields no usable data.
* `Fault` — that, or something unexpected.

## References

`SPEC_FULL.md`, section 7.
-/

namespace StationWatch

/-- Why a request yields no usable data. -/
inductive FetchFault
  /-- The service answered with a status code other than 200. -/
  | status (code : Int) (url reason : RawText)
  | timedOut (limit : Float) (url : RawText)
  | failed (failure : NetworkFailure)
  | notJson (fault : Json.Fault)
  /-- The response is not shaped as the query promises. -/
  | shape (fault : ShapeFault)
  deriving Repr, Inhabited

/-- The wording for a status code; an empty address or phrase leaves no blanks at the ends. -/
def statusMessage (code : Int) (url reason : RawText) : RawText :=
  ("HTTP " ++ toString code ++ " " ++ reason ++ ": " ++ url).strip

namespace FetchFault

/-- The wording of a fault. -/
def message : FetchFault → RawText
  | .status code url reason => statusMessage code url reason
  | .timedOut limit url => "Request timed out after " ++ Decimal.text limit ++ "s: " ++ url
  | .failed failure => "Request failed: " ++ failure.message
  | .notJson fault => "Response is not valid JSON: " ++ fault.message
  | .shape fault => fault.message

/-- Whether no response arrived. -/
def isTransport : FetchFault → Bool
  | .timedOut _ _ => true
  | .failed _ => true
  | _ => false

end FetchFault

/-- Why a cycle cannot go on. -/
inductive Fault
  /-- A request yields no usable data. -/
  | fetch (fault : FetchFault)
  /-- A failure that does not come from a request. -/
  | network (failure : NetworkFailure)
  | tooDeep
  | number (fault : NumberFault)
  | distance (fault : DomainFault)
  | query (fault : Query.Fault)
  /-- A channel that cannot be the key of a table. -/
  | unusableKey (kind : String)
  deriving Repr, Inhabited

/-- The wording of a fault. -/
def Fault.message : Fault → RawText
  | .fetch fault => fault.message
  | .network failure => failure.message
  | .tooDeep => Json.Fault.tooDeep.message
  | .number fault => fault.message
  | .distance fault => fault.message
  | .query fault => fault.message
  | .unusableKey kind => "unhashable type: \x27" ++ kind ++ "\x27"

/-- What a payload without usable data means for a cycle: only a wrong shape is expected. -/
def PayloadFault.asFault : PayloadFault → Fault
  | .shape fault => .fetch (.shape fault)
  | .tooLarge => .number .tooLarge
  | .distance fault => .distance fault

end StationWatch
