import StationWatch.Text.Quoted

/-!
# Requests and their answers

A request asks for one address within a time limit.  It is answered by a response, whatever its
status code, or fails before one arrives.  Failures have kinds: only those of the connection and of
the time limit pass by themselves, and a few do not come from the request at all.

## Main definitions

* `Request`, `Response`, `Reply` — what is sent and what comes back.
* `FailureKind`, `NetworkFailure` — how a request fails.
* `FailureKind.isTimeout`, `FailureKind.isConnection`, `FailureKind.isRequest` — families of kinds.
* `NetworkFailure.isTransient` — the failures that another attempt may avoid.

## References

`SPEC_FULL.md`, section 6.
-/

namespace StationWatch

/-- A request for one address. -/
structure Request where
  url : RawText
  /-- The time limit in seconds. -/
  timeout : Float
  deriving Repr, Inhabited

/-- A response, whatever its status. -/
structure Response where
  status : Int
  body : String
  /-- The phrase beside the status code. -/
  reason : String
  deriving DecidableEq, Repr, Inhabited

/-- The kinds of failure before a response arrives. -/
inductive FailureKind
  | timeout
  | readTimeout
  | connectTimeout
  | connection
  | tls
  | proxy
  | http
  | invalidUrl
  | invalidProxyUrl
  | missingSchema
  | invalidSchema
  | invalidHeader
  | urlRequired
  | chunkedEncoding
  | contentDecoding
  | streamConsumed
  | unrewindableBody
  | retry
  | tooManyRedirects
  | invalidJson
  | request
  | system
  | runtime
  | key
  deriving DecidableEq, Repr, Inhabited

namespace FailureKind

/-- The kinds in which a time limit passed. -/
def isTimeout : FailureKind → Bool
  | .timeout | .readTimeout | .connectTimeout => true
  | _ => false

/-- The kinds in which there was no working connection. -/
def isConnection : FailureKind → Bool
  | .connection | .tls | .proxy | .connectTimeout => true
  | _ => false

/-- The kinds that come from the request. -/
def isRequest : FailureKind → Bool
  | .system | .runtime | .key => false
  | _ => true

/-- The name of a kind. -/
def name : FailureKind → String
  | .timeout => "Timeout"
  | .readTimeout => "ReadTimeout"
  | .connectTimeout => "ConnectTimeout"
  | .connection => "ConnectionError"
  | .tls => "SSLError"
  | .proxy => "ProxyError"
  | .http => "HTTPError"
  | .invalidUrl => "InvalidURL"
  | .invalidProxyUrl => "InvalidProxyURL"
  | .missingSchema => "MissingSchema"
  | .invalidSchema => "InvalidSchema"
  | .invalidHeader => "InvalidHeader"
  | .urlRequired => "URLRequired"
  | .chunkedEncoding => "ChunkedEncodingError"
  | .contentDecoding => "ContentDecodingError"
  | .streamConsumed => "StreamConsumedError"
  | .unrewindableBody => "UnrewindableBodyError"
  | .retry => "RetryError"
  | .tooManyRedirects => "TooManyRedirects"
  | .invalidJson => "InvalidJSONError"
  | .request => "RequestException"
  | .system => "OSError"
  | .runtime => "RuntimeError"
  | .key => "KeyError"

/-- All kinds. -/
def all : List FailureKind :=
  [.timeout, .readTimeout, .connectTimeout, .connection, .tls, .proxy, .http, .invalidUrl,
   .invalidProxyUrl, .missingSchema, .invalidSchema, .invalidHeader, .urlRequired,
   .chunkedEncoding, .contentDecoding, .streamConsumed, .unrewindableBody, .retry,
   .tooManyRedirects, .invalidJson, .request, .system, .runtime, .key]

/-- The kind of a name. -/
def ofName? (s : String) : Option FailureKind := all.find? fun kind => kind.name == s

end FailureKind

/-- A failure before a response arrives, with what is said about it. -/
structure NetworkFailure where
  kind : FailureKind
  /-- What is said about it, if anything. -/
  detail : Option RawText
  deriving DecidableEq, Repr, Inhabited

namespace NetworkFailure

/-- The wording of a failure; a look-up that found nothing mentions what was looked for. -/
def message (f : NetworkFailure) : RawText :=
  match f.detail with
  | none => ""
  | some detail => if f.kind = .key then Text.mention detail else detail

/-- Whether another attempt may avoid the failure. -/
def isTransient (f : NetworkFailure) : Bool := f.kind.isConnection || f.kind.isTimeout

end NetworkFailure

/-- What comes back for a request. -/
inductive Reply
  | response (response : Response)
  | failure (failure : NetworkFailure)
  deriving Repr, Inhabited

/-- The reply as a result. -/
def Reply.result : Reply → Except NetworkFailure Response
  | .response r => .ok r
  | .failure f => .error f

end StationWatch
