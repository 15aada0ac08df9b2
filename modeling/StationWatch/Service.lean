import StationWatch.Credentials
import StationWatch.Dialogue
import StationWatch.Fault
import StationWatch.Retry

/-!
# The service

A service is asked at one address.  A request puts a query path behind that address, carries the
time limit and the credentials, and is tried again where the settings allow.  Any response counts as
an answer; a failure before one arrives is a fault of the request.

## Main definitions

* `Service` — a service and how it is asked.
* `Service.get` — a response for a query path.
* `Service.fetch` — the JSON value behind a query path.

## References

`SPEC_FULL.md`, section 6.
-/

namespace StationWatch

/-- Named values that accompany a call get a time limit, unless they have one. -/
def withTimeLimit (seconds : Float) (options : Json.Members) : Json.Members :=
  match Json.lookup "timeout" options with
  | some _ => options
  | none => Json.insert "timeout" (.float seconds) options

/-- A call has the limit that it brings along, or else the given one. -/
theorem lookup_withTimeLimit (seconds : Float) (options : Json.Members) :
    Json.lookup "timeout" (withTimeLimit seconds options) =
      some ((Json.lookup "timeout" options).getD (.float seconds)) := by
  unfold withTimeLimit
  cases h : Json.lookup "timeout" options with
  | some limit => simp [h]
  | none => simp

/-- Whatever else accompanies a call stays as it is. -/
theorem lookup_withTimeLimit_of_ne (seconds : Float) (options : Json.Members) {name : RawText}
    (h : name ≠ "timeout") :
    Json.lookup name (withTimeLimit seconds options) = Json.lookup name options := by
  unfold withTimeLimit
  split
  · rfl
  · exact Json.lookup_insert_of_ne _ _ h

/-- What the program rests on: how deeply values may be nested when they are read, and how requests
are repeated. -/
structure Platform where
  nestingLimit : Nat := 1000
  backoff : Backoff := .exponential
  deriving Inhabited

/-- Named texts that accompany a request. -/
abbrev Headers := List (String × String)

/-- A service and how it is asked. -/
structure Service where
  /-- The address of the service, without slashes at its end. -/
  baseUrl : RawText
  /-- The time limit of a request in seconds. -/
  timeout : Float
  /-- How often a request is tried; below one it counts as one. -/
  attempts : Int
  /-- The longest pause between attempts in seconds. -/
  maxWait : Float
  headers : Headers
  platform : Platform
  deriving Inhabited

/-- The settings of a service. -/
structure ServiceSettings where
  baseUrl : RawText
  username : Option RawText := none
  password : Option RawText := none
  /-- The time limit of a request in seconds. -/
  timeout : Float := 10.0
  attempts : Int := 1
  /-- The longest pause between attempts in seconds. -/
  maxWait : Float := 10.0
  deriving Repr, Inhabited

/-- How the program introduces itself. -/
def userAgent : String := "opensmartcity/0.1.0 (SensorThings weather poller)"

/-- Characters without the slashes at their end. -/
def dropSlashes (cs : List Char) : List Char := (cs.reverse.dropWhile (· == '/')).reverse

/-- An address without the slashes at its end. -/
def trimSlashes : RawText → RawText
  | .whole s => .whole (String.ofList (dropSlashes s.toList))
  | .broken front half rest => .broken front half (trimSlashes rest)

/-- The headers that carry credentials: none without a user name. -/
def authHeaders (username password : Option RawText) : Except EncodingFault Headers :=
  match username with
  | none => .ok []
  | some name =>
    if name.isEmpty then .ok []
    else (basicAuth name (password.getD "")).map fun header => [("Authorization", header)]

namespace Service

/-- The service of the given settings, with headers that carry the credentials. -/
def connect (s : ServiceSettings) (credentials : Headers := []) (platform : Platform := {}) :
    Service :=
  { baseUrl := trimSlashes s.baseUrl
    timeout := s.timeout
    attempts := max 1 s.attempts
    maxWait := s.maxWait
    headers := [("User-Agent", userAgent), ("Accept", "application/json")] ++ credentials
    platform }

/-- The service of the given settings, if their credentials have bytes. -/
def ofSettings (s : ServiceSettings) (platform : Platform := {}) : Except EncodingFault Service :=
  (authHeaders s.username s.password).map fun credentials => connect s credentials platform

theorem ofSettings_eq_ok_iff {s : ServiceSettings} {platform : Platform} {c : Service} :
    ofSettings s platform = .ok c ↔ ∃ credentials,
      authHeaders s.username s.password = .ok credentials ∧ c = connect s credentials platform := by
  unfold ofSettings
  cases authHeaders s.username s.password <;> simp [Except.map, eq_comm]

/-- The address of a query path. -/
def address (c : Service) (path : RawText) : RawText := c.baseUrl ++ path

/-- How requests are tried again: the first pause is two seconds, and there is no least one. -/
def policy (c : Service) : RetryPolicy :=
  { attempts := c.attempts, minWait := 0.0, maxWait := c.maxWait }

/-- The time limit of a request, which brings none along. -/
def timeLimit (c : Service) : Float :=
  match Json.lookup "timeout" (withTimeLimit c.timeout []) with
  | some (.float seconds) => seconds
  | _ => c.timeout

/-- The request for an address. -/
def requestFor (c : Service) (url : RawText) : Request := ⟨url, c.timeLimit⟩

theorem requestFor_eq (c : Service) (url : RawText) : c.requestFor url = ⟨url, c.timeout⟩ := rfl

/-- What is done around the attempts at a request: failures and pauses are reported. -/
def around (c : Service) : Around Dialogue NetworkFailure where
  failed attempt failure :=
    Dialogue.log .debug .retries (c.platform.backoff.failedLine attempt failure)
  retry pause failure :=
    Dialogue.log .warning .retries (c.platform.backoff.pauseLine pause failure)
  pause := Dialogue.pause

/-- A request for an address with its attempts. -/
def send (c : Service) (url : RawText) : Dialogue (Except NetworkFailure Response) :=
  c.policy.run c.platform.backoff c.around NetworkFailure.isTransient
    (Reply.result <$> Dialogue.request (c.requestFor url))

/-- What a failed request for an address means. -/
def faultOf (c : Service) (url : RawText) (failure : NetworkFailure) : Fault :=
  if failure.kind.isTimeout then .fetch (.timedOut c.timeout url)
  else if failure.kind.isRequest then .fetch (.failed failure)
  else .network failure

/-- A response for a query path, whatever its status. -/
def get (c : Service) (path : RawText) : Dialogue (Except Fault Response) := do
  let url := c.address path
  Dialogue.log .debug .service ("Requesting " ++ url)
  match ← c.send url with
  | .ok response => pure (.ok response)
  | .error failure => pure (.error (c.faultOf url failure))

/-- The start of a text, for the log. -/
def excerpt (limit : Nat) (s : String) : String := String.ofList (s.toList.take limit)

/-- The JSON value in a response of status 200. -/
def payloadOf (c : Service) (path : RawText) (response : Response) : Except Fault Json :=
  if response.status ≠ 200 then
    .error (.fetch (.status response.status (c.address path) response.reason))
  else
    match Json.parse c.platform.nestingLimit response.body with
    | .ok payload => .ok payload
    | .error .tooDeep => .error .tooDeep
    | .error fault => .error (.fetch (.notJson fault))

/-- What is reported about a response. -/
def noteResponse (response : Response) (payload : Except Fault Json) : Dialogue Unit :=
  if response.status ≠ 200 then
    Dialogue.log .debug .service
      ("HTTP request failed with response code " ++ toString response.status ++ ": " ++
        response.reason)
  else
    match payload with
    | .ok _ => Dialogue.log .debug .service ("Retrieved content " ++ excerpt 500 response.body)
    | .error _ => pure ()

/-- The JSON value behind a query path. -/
def fetch (c : Service) (path : RawText) : Dialogue (Except Fault Json) := do
  match ← c.get path with
  | .error fault => pure (.error fault)
  | .ok response =>
    let payload := c.payloadOf path response
    noteResponse response payload
    pure payload

end Service

end StationWatch
