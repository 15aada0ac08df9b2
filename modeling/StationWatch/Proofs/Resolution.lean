import StationWatch.Proofs.Attempts
import StationWatch.Proofs.Entries

/-!
# When the search for a station fails

A cycle first asks for the locations of the stations.  If the answer leaves no station, the cycle
sends no other request, and what it publishes depends on the answer alone.  A fault that the search
expects is a failure to communicate.  Two kinds of answers hold a fault that it does not expect: a
response nested too deeply, and one with an overlarge coordinate.  They are overlooked, and the
failure is reported as one of the reading.

## Main definitions

* `Cycle.locationsAnswer` — what the network finally answers to the request for the locations.
* `Cycle.LeavesNoStation` — the answers without a station.
* `Cycle.Overlooked` — the answers whose fault the search does not expect.

## Main results

* `exchange_findStation` — what is found depends on the answer alone.
* `runCycle_degrades_unless_overlooked` — a cycle whose answer leaves no station.

## References

`SPEC_FULL.md`, sections 4.1 and 4.3, on failures to find a station.
-/

namespace StationWatch

namespace Service

/-! ### The stations of an answer -/

@[simp] theorem exchange_noteSkipped (entries : List Json) (replies : List Reply) :
    (noteSkipped entries).exchange replies = ⟨(), [], replies⟩ := by
  induction entries with
  | nil => rfl
  | cons entry rest ih => simp [noteSkipped, ih]

@[simp] theorem exchange_noteNearest (stations : List RankedStation) (replies : List Reply) :
    (noteNearest stations).exchange replies = ⟨(), [], replies⟩ := by
  cases stations <;> rfl

/-- What a final answer to the request for the locations yields. -/
def stationsOfAnswer (c : Service) (p : ReferencePoint) (path : RawText)
    (answer : Except NetworkFailure Response) : Except Fault (List RankedStation) :=
  match c.payloadOfAnswer path answer with
  | .error fault => .error fault
  | .ok payload =>
    match rankPayload p payload with
    | .error fault => .error fault.asFault
    | .ok stations => .ok stations

theorem exchange_stationsNear (c : Service) (p : ReferencePoint) (path : RawText)
    (replies : List Reply) :
    (c.stationsNear p path).exchange replies =
      { (c.send (c.address path)).exchange replies with
        result :=
          c.stationsOfAnswer p path ((c.send (c.address path)).exchange replies).result } := by
  simp only [stationsNear, Dialogue.exchange_bind, exchange_fetch, stationsOfAnswer]
  cases c.payloadOfAnswer path ((c.send (c.address path)).exchange replies).result with
  | error fault => simp
  | ok payload =>
    cases hrank : rankPayload p payload with
    | error fault => simp [hrank]
    | ok stations => simp [hrank]

/-- A payload without a station is not ranked; only an overflowing entry makes this more than a
matter of shape. -/
theorem rankPayload_of_no_station (p : ReferencePoint) {payload : Json}
    (h : (Station.ofPayload payload).toOption.getD [] = []) :
    ∃ fault, rankPayload p payload = .error fault ∧
      ((∃ shape, fault = .shape shape) ↔
        ¬ ∃ items, Station.Lists payload items ∧ ∃ entry ∈ items, Station.Overflows entry) := by
  unfold rankPayload
  cases hread : Station.ofPayload payload with
  | ok stations =>
    have hempty : stations = [] := by simpa [hread, Except.toOption] using h
    refine ⟨.shape .noStation, by simp [hempty, rank], fun _ => ?_, fun _ => ⟨_, rfl⟩⟩
    rintro ⟨items, hlists, hover⟩
    rw [Station.ofPayload_of_lists hlists, Station.ofEntries_eq_tooLarge hover] at hread
    cases hread
  | error fault =>
    refine ⟨fault, rfl, ?_⟩
    by_cases hlists : ∃ items, Station.Lists payload items
    · obtain ⟨items, hlists⟩ := hlists
      rw [Station.ofPayload_of_lists hlists, Station.ofEntries_eq_error_iff] at hread
      obtain ⟨hover, rfl⟩ := hread
      simp only [reduceCtorEq, exists_false, false_iff, Classical.not_not]
      exact ⟨items, hlists, hover⟩
    · have hnot : ∀ items, ¬ Station.Lists payload items := by simpa using hlists
      rw [Station.ofPayload_of_not_lists hnot, Except.error.injEq] at hread
      simp only [← hread, PayloadFault.shape.injEq, exists_eq', true_iff]
      rintro ⟨items, h, -⟩
      exact hnot items h

end Service

/-- The stations that are left of a response, if values may be nested so deeply. -/
def Response.stations (nestingLimit : Nat) (r : Response) : List Station :=
  if r.status = 200 then
    match Json.parse nestingLimit r.body with
    | .ok payload => (Station.ofPayload payload).toOption.getD []
    | .error _ => []
  else []

namespace Cycle

/-! ### The search -/

/-- What the network finally answers to the request for the locations. -/
def locationsAnswer (service : Service) (replies : List Reply) : Except NetworkFailure Response :=
  ((service.send (service.address Query.onlineLocations)).exchange replies).result

/-- The answers without a station: a failed request, and a response of which none is left. -/
def LeavesNoStation (nestingLimit : Nat) : Except NetworkFailure Response → Prop
  | .error failure => failure.kind.isRequest = true
  | .ok response => response.stations nestingLimit = []

/-- The answers whose fault the search does not expect: a response nested too deeply, or one with an
overflowing entry. -/
def Overlooked (nestingLimit : Nat) : Except NetworkFailure Response → Prop
  | .error _ => False
  | .ok response => response.status = 200 ∧
    (Json.parse nestingLimit response.body = .error .tooDeep ∨
      ∃ payload items, Json.parse nestingLimit response.body = .ok payload ∧
        Station.Lists payload items ∧ ∃ entry ∈ items, Station.Overflows entry)

/-- What the search makes of an answer. -/
def foundIn (service : Service) (p : ReferencePoint) (answer : Except NetworkFailure Response) :
    Except Fault (RankedStation × Nat) :=
  match service.stationsOfAnswer p Query.onlineLocations answer with
  | .error fault => .error fault
  | .ok stations =>
    match nearest stations with
    | .ok station => .ok (station, stations.length)
    | .error fault => .error (.fetch (.shape fault))

section

variable (service : Service) (registry : Registry) (settings : WeatherSettings)
variable (p : ReferencePoint)

/-- What is found depends on the answer alone. -/
theorem exchange_findStation (replies : List Reply) :
    (findStation service p).exchange replies =
      { (service.send (service.address Query.onlineLocations)).exchange replies with
        result := foundIn service p (locationsAnswer service replies) } := by
  simp only [findStation, Dialogue.exchange_bind, Service.exchange_stationsNear, foundIn,
    locationsAnswer]
  cases service.stationsOfAnswer p Query.onlineLocations
      ((service.send (service.address Query.onlineLocations)).exchange replies).result with
  | error fault => simp
  | ok stations => cases hnearest : nearest stations <;> simp [hnearest]

/-- Without a station there is a fault, which the search expects unless it is overlooked. -/
theorem foundIn_of_leavesNoStation {answer : Except NetworkFailure Response}
    (h : LeavesNoStation service.platform.nestingLimit answer) :
    ∃ fault, foundIn service p answer = .error fault ∧
      ((∃ expected, fault = .fetch expected) ↔
        ¬ Overlooked service.platform.nestingLimit answer) := by
  unfold foundIn Service.stationsOfAnswer
  cases answer with
  | error failure =>
    -- no response: every failure of a request is expected
    simp only [LeavesNoStation] at h
    by_cases htimeout : failure.kind.isTimeout = true
    · simp [Service.payloadOfAnswer, Service.faultOf, htimeout, Overlooked]
    · simp [Service.payloadOfAnswer, Service.faultOf, htimeout, h, Overlooked]
  | ok response =>
    by_cases hstatus : response.status = 200
    · cases hparse : Json.parse service.platform.nestingLimit response.body with
      | error fault =>
        -- no value: of all faults of the reader only the nesting is not expected
        cases fault <;>
          simp [Service.payloadOfAnswer, Service.payloadOf, hstatus, hparse, Overlooked]
      | ok payload =>
        -- a value without a station
        have hnone : (Station.ofPayload payload).toOption.getD [] = [] := by
          simpa [LeavesNoStation, Response.stations, hstatus, hparse] using h
        obtain ⟨fault, hfault, hshape⟩ := Service.rankPayload_of_no_station p hnone
        refine ⟨fault.asFault, ?_, ?_⟩
        · simp [Service.payloadOfAnswer, Service.payloadOf, hstatus, hparse, hfault]
        · have hoverlooked : Overlooked service.platform.nestingLimit (.ok response) ↔
              ∃ items, Station.Lists payload items ∧
                ∃ entry ∈ items, Station.Overflows entry := by
            simp [Overlooked, hstatus, hparse]
          rw [hoverlooked, ← hshape]
          cases fault <;> simp [PayloadFault.asFault]
    · simp [Service.payloadOfAnswer, Service.payloadOf, hstatus, Overlooked]

section

variable {service p} {response : Response} {payload : Json}

/-- An overflowing entry leaves nothing of its response. -/
theorem leavesNoStation_of_tooLarge {nestingLimit : Nat}
    (hparse : Json.parse nestingLimit response.body = .ok payload)
    (hlarge : Station.ofPayload payload = .error .tooLarge) :
    LeavesNoStation nestingLimit (.ok response) := by
  unfold LeavesNoStation Response.stations
  simp [hparse, hlarge, Except.toOption]

theorem foundIn_of_tooLarge (hstatus : response.status = 200)
    (hparse : Json.parse service.platform.nestingLimit response.body = .ok payload)
    (hlarge : Station.ofPayload payload = .error .tooLarge) :
    foundIn service p (.ok response) = .error (.number .tooLarge) := by
  simp [foundIn, Service.stationsOfAnswer, Service.payloadOfAnswer, Service.payloadOf, hstatus,
    hparse, Service.rankPayload, hlarge, PayloadFault.asFault]

end

/-! ### The cycle -/

/-- How a cycle ends when a request in a stage meets a fault; an unexpected one counts as a fault of
the reading. -/
def outcomeOf (stage : Stage) : Fault → Outcome
  | .fetch fault => .ofFetchFault fault stage
  | fault => .parseFailure (.fault fault) .fetch

/-- A search that meets a fault is all there is of its cycle. -/
theorem exchange_program_of_error {replies : List Reply} {fault : Fault}
    (h : ((findStation service p).exchange replies).result = .error fault) :
    (program service registry settings p).exchange replies =
      { (findStation service p).exchange replies with result := outcomeOf .resolve fault } := by
  simp only [program, execute, Dialogue.exchange_bind, Dialogue.exchange_enter, h]
  cases fault <;> simp [outcomeOf]

end

/-- A fault that the search expects is a failure to communicate. -/
theorem outcomeOf_fetch (fault : FetchFault) :
    (outcomeOf .resolve (.fetch fault)).stage? = some .resolve ∧
      (outcomeOf .resolve (.fetch fault)).phase = .degraded ∧
      (outcomeOf .resolve (.fetch fault)).announcements =
        [.status (.offline (some .communicationError))] := by
  cases fault <;> exact ⟨rfl, rfl, rfl⟩

/-- A fault that the search does not expect is reported without a detail. -/
theorem outcomeOf_unexpected {fault : Fault} (h : ¬ ∃ expected, fault = .fetch expected) :
    (outcomeOf .resolve fault).stage? = some .fetch ∧
      (outcomeOf .resolve fault).phase = .publishing ∧
      (outcomeOf .resolve fault).announcements = [.status (.offline none)] := by
  cases fault with
  | fetch expected => exact absurd ⟨expected, rfl⟩ h
  | _ => exact ⟨rfl, rfl, rfl⟩

end Cycle

namespace Session

/-- **A cycle without a station degrades unless the fault is overlooked.**  If the final answer to
the request for the locations leaves no station, the cycle sends no other request and publishes
nothing but one status.  This is a failure to communicate in the search for a station, and the cycle
is degraded, except for the overlooked answers: there it is a failure of the reading without a
detail, and the cycle is not degraded. -/
theorem runCycle_degrades_unless_overlooked (service : Service) (registry : Registry)
    (settings : WeatherSettings) (p : ReferencePoint) (s : Session)
    (h : Cycle.LeavesNoStation service.platform.nestingLimit
      (Cycle.locationsAnswer service s.replies)) :
    ∃ outcome after, s.runCycle service registry settings p = (outcome, after) ∧
      (∃ more, after.journal.requests = s.journal.requests ++
        List.replicate (more + 1) (service.requestFor (service.address Query.onlineLocations))) ∧
      (¬ Cycle.Overlooked service.platform.nestingLimit
          (Cycle.locationsAnswer service s.replies) →
        outcome.stage? = some .resolve ∧ after.phase = .degraded ∧
          after.journal.announcements =
            s.journal.announcements ++ [.status (.offline (some .communicationError))]) ∧
      (Cycle.Overlooked service.platform.nestingLimit
          (Cycle.locationsAnswer service s.replies) →
        outcome.stage? = some .fetch ∧ after.phase = .publishing ∧
          after.journal.announcements = s.journal.announcements ++ [.status (.offline none)]) := by
  obtain ⟨fault, hfound, hexpected⟩ := Cycle.foundIn_of_leavesNoStation service p h
  have hsearch := Cycle.exchange_findStation service p s.replies
  rw [hfound] at hsearch
  have hprogram := Cycle.exchange_program_of_error service registry settings p
    (congrArg Exchange.result hsearch)
  rw [hsearch] at hprogram
  refine ⟨(s.runCycle service registry settings p).1, (s.runCycle service registry settings p).2,
    rfl, ?_⟩
  rw [requests_runCycle, phase_runCycle, announcements_runCycle, runCycle_fst, hprogram]
  refine ⟨?_, fun hnot => ?_, fun hover => ?_⟩
  · obtain ⟨more, hmore⟩ :=
      service.requests_send (service.address Query.onlineLocations) s.replies
    exact ⟨more, by rw [hmore]⟩
  · obtain ⟨expected, rfl⟩ := hexpected.2 hnot
    obtain ⟨hstage, hphase, hannounced⟩ := Cycle.outcomeOf_fetch expected
    exact ⟨hstage, hphase, by rw [hannounced]⟩
  · have hunexpected : ¬ ∃ expected, fault = .fetch expected := fun hfetch =>
      hexpected.1 hfetch hover
    obtain ⟨hstage, hphase, hannounced⟩ := Cycle.outcomeOf_unexpected hunexpected
    exact ⟨hstage, hphase, by rw [hannounced]⟩

/-- A list of locations that is not found degrades the cycle. -/
theorem runCycle_degrades_if_notFound :
    Cycle.LeavesNoStation 1000 (Cycle.locationsAnswer (.connect { baseUrl := "/v1" })
      [.response ⟨404, "", "Not Found"⟩]) ∧
    ((ofReplies [.response ⟨404, "", "Not Found"⟩]).runCycle (.connect { baseUrl := "/v1" })
      .builtIn {} ⟨51.2, 7.1⟩).2.phase = .degraded := by
  have hnone : Cycle.LeavesNoStation 1000 (Cycle.locationsAnswer (.connect { baseUrl := "/v1" })
      [.response ⟨404, "", "Not Found"⟩]) := rfl
  have hexpected : ¬ Cycle.Overlooked 1000 (Cycle.locationsAnswer (.connect { baseUrl := "/v1" })
      [.response ⟨404, "", "Not Found"⟩]) := by
    rintro ⟨hstatus, -⟩
    exact absurd hstatus (by decide)
  obtain ⟨outcome, after, hrun, -, hdegraded, -⟩ := runCycle_degrades_unless_overlooked
    (.connect { baseUrl := "/v1" }) .builtIn {} ⟨51.2, 7.1⟩
    (ofReplies [.response ⟨404, "", "Not Found"⟩]) hnone
  refine ⟨hnone, ?_⟩
  rw [hrun]
  exact (hdegraded hexpected).2.1

/-- A list of one location, whose longitude is the whole number of four hundred nines. -/
def overlargeBody : List Char :=
  "\x7b\"value\":[\x7b\"@iot.id\":1,\"location\":\x7b\"coordinates\":[".toList ++
    List.replicate 400 '9' ++ ",51]\x7d\x7d]\x7d".toList

/-- The response with that list. -/
def overlargeResponse : Response := ⟨200, .ofList overlargeBody, "OK"⟩

theorem parse_overlargeResponse : ∃ payload,
    Json.parse 1000 overlargeResponse.body = .ok payload ∧
      Station.ofPayload payload = .error .tooLarge := by
  have hread : (match Json.wholeText 1000 overlargeBody with
      | .ok payload =>
        match Station.ofPayload payload with
        | .error .tooLarge => true
        | _ => false
      | .error _ => false) = true := by decide +kernel
  rw [Json.parse, overlargeResponse, String.toList_ofList]
  cases hwhole : Json.wholeText 1000 overlargeBody with
  | error stop => simp [hwhole] at hread
  | ok payload =>
    refine ⟨payload, rfl, ?_⟩
    simp only [hwhole] at hread
    split at hread
    · assumption
    · simp at hread

/-- A session in which this is the only reply. -/
def overlargeSession : Session := ofReplies [.response overlargeResponse]

/-- After an overlarge longitude the cycle neither degrades nor reports a failed search. -/
theorem runCycle_overlooks_overlarge_longitude :
    Cycle.LeavesNoStation 1000
      (Cycle.locationsAnswer (.connect { baseUrl := "/v1" }) overlargeSession.replies) ∧
    (overlargeSession.runCycle (.connect { baseUrl := "/v1" }) .builtIn {} ⟨51.2, 7.1⟩).1 =
      .parseFailure (.fault (.number .tooLarge)) .fetch ∧
    (overlargeSession.runCycle (.connect { baseUrl := "/v1" }) .builtIn {}
      ⟨51.2, 7.1⟩).2.phase = .publishing ∧
    (overlargeSession.runCycle (.connect { baseUrl := "/v1" }) .builtIn {}
      ⟨51.2, 7.1⟩).2.journal.announcements = [.status (.offline none)] := by
  obtain ⟨payload, hparse, hlarge⟩ := parse_overlargeResponse
  have hanswer : Cycle.locationsAnswer (.connect { baseUrl := "/v1" })
      overlargeSession.replies = .ok overlargeResponse :=
    Service.result_send_response _ _ _ []
  have hsearch : ((Cycle.findStation (.connect { baseUrl := "/v1" }) ⟨51.2, 7.1⟩).exchange
      overlargeSession.replies).result = .error (.number .tooLarge) := by
    have hlimit : 1000 = (Service.connect { baseUrl := "/v1" }).platform.nestingLimit := rfl
    rw [hlimit] at hparse
    rw [Cycle.exchange_findStation, hanswer, Cycle.foundIn_of_tooLarge rfl hparse hlarge]
  have houtcome : (overlargeSession.runCycle (.connect { baseUrl := "/v1" }) .builtIn {}
      ⟨51.2, 7.1⟩).1 = .parseFailure (.fault (.number .tooLarge)) .fetch := by
    rw [runCycle_fst]
    exact congrArg Exchange.result (Cycle.exchange_program_of_error _ .builtIn {} _ hsearch)
  refine ⟨?_, houtcome, ?_, ?_⟩
  · rw [hanswer]
    exact Cycle.leavesNoStation_of_tooLarge hparse hlarge
  · rw [phase_runCycle, houtcome]
    rfl
  · rw [announcements_runCycle, houtcome]
    rfl

end Session

end StationWatch
