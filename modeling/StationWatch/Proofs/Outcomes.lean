import StationWatch.Proofs.Trace

/-!
# How a cycle ends

A cycle ends with the first request that yields no usable data, with the first measurement that
cannot be used for another reason, or with success.  The reply to the last attempt at that request
decides which outcome it is: a response with another status than 200, a failure of the request, or
anything else, which counts as a response that cannot be used.

## Main definitions

* `Reply.Explains` — a reply and the fault that comes of it.
* `Cycle.FailsAt`, `Cycle.EndsBy` — the request that ends a cycle, and the last reply to it.
* `Cycle.Completes` — a cycle in which everything was read.
* `Cycle.Classifies` — what an outcome says about the replies.

## Main results

* `Cycle.FailsAt.exchange_program` — a cycle ends as its failing request says.
* `Cycle.exists_end` — every cycle fails at a request, completes, or meets something unusable.
* `Cycle.classifies_outcomeWith` — the outcome of a cycle by what ended it.
* `Session.runCycle_classifies` — which outcome a cycle has, and what it publishes then.

## References

`SPEC_FULL.md`, section 4.3, on the outcomes of a cycle.
-/

namespace StationWatch

/-! ### Replies and faults -/

/-- A fault comes of the last reply to a request: it tells of a status if and only if the reply is a
response with that status other than 200, and of a missing response if and only if the reply is a
failure of the request. -/
structure Reply.Explains (last : Reply) (fault : Fault) : Prop where
  /-- The status of a response. -/
  status : ∀ code, (∃ url reason, fault = .fetch (.status code url reason)) ↔
    ∃ response, last = .response response ∧ response.status = code ∧ code ≠ 200
  /-- A missing response. -/
  transport : (∃ told, fault = .fetch told ∧ told.isTransport = true) ↔
    ∃ failure, last = .failure failure ∧ failure.kind.isRequest = true

/-- Of a response of status 200 only other faults can come. -/
theorem Reply.explains_of_status {response : Response} {fault : Fault}
    (hstatus : response.status = 200)
    (hcode : ∀ code url reason, fault ≠ .fetch (.status code url reason))
    (htransport : ∀ told, fault = .fetch told → told.isTransport = false) :
    (Reply.response response).Explains fault where
  status code := by
    constructor
    · rintro ⟨url, reason, hfault⟩
      exact absurd hfault (hcode code url reason)
    · rintro ⟨r, hr, hsame, hne⟩
      cases hr
      exact absurd (hsame.symm.trans hstatus) hne
  transport := by
    constructor
    · rintro ⟨told, hfault, htold⟩
      rw [htransport told hfault] at htold
      cases htold
    · rintro ⟨failure, hfailure, -⟩
      cases hfailure

namespace Service

variable {c : Service} {path : RawText} {last : Reply}

/-- What is wrong with the final answer to a request comes of the last reply. -/
theorem explains_of_payloadOfAnswer {fault : Fault}
    (h : c.payloadOfAnswer path last.result = .error fault) : last.Explains fault := by
  cases last with
  | failure failure =>
    rw [Reply.result, payloadOfAnswer, Except.error.injEq] at h
    subst h
    cases hkind : failure.kind.isRequest with
    | true =>
      obtain ⟨told, hfault, htransport, -⟩ := faultOf_of_isRequest hkind (c.address path)
      rw [hfault]
      refine ⟨fun code => ⟨?_, by simp⟩, by simp [htransport, hkind]⟩
      rintro ⟨url, reason, htold⟩
      rw [Fault.fetch.injEq] at htold
      rw [htold] at htransport
      cases htransport
    | false =>
      rw [faultOf_of_not_isRequest hkind]
      exact ⟨by simp, by simp [hkind]⟩
  | response response =>
    rw [Reply.result, payloadOfAnswer, payloadOf] at h
    by_cases hstatus : response.status = 200
    · rw [if_neg (by simpa using hstatus)] at h
      split at h
      · cases h
      · cases h
        exact Reply.explains_of_status hstatus (by simp) (by simp)
      · cases h
        exact Reply.explains_of_status hstatus (by simp) (by simp [FetchFault.isTransport])
    · rw [if_pos hstatus, Except.error.injEq] at h
      subst h
      refine ⟨fun code => ?_, by simp [FetchFault.isTransport]⟩
      constructor
      · rintro ⟨url, reason, hfault⟩
        cases hfault
        exact ⟨response, rfl, rfl, hstatus⟩
      · rintro ⟨r, hr, rfl, -⟩
        cases hr
        exact ⟨_, _, rfl⟩

/-- A value without usable data comes of a response of status 200. -/
theorem explains_asFault {payload : Json} (h : c.payloadOfAnswer path last.result = .ok payload)
    (fault : PayloadFault) : last.Explains fault.asFault := by
  cases last with
  | failure failure => cases h
  | response response =>
    have hstatus : response.status = 200 := by
      by_contra hstatus
      rw [Reply.result, payloadOfAnswer, payloadOf, if_pos hstatus] at h
      cases h
    refine Reply.explains_of_status hstatus ?_ ?_
    · cases fault <;> simp [PayloadFault.asFault]
    · cases fault <;> simp [PayloadFault.asFault, FetchFault.isTransport]

theorem explains_of_observationOfAnswer {measurement : RawText} {fault : Fault}
    (h : c.observationOfAnswer path measurement last.result = .error fault) :
    last.Explains fault := by
  unfold observationOfAnswer at h
  cases hpayload : c.payloadOfAnswer path last.result with
  | error told =>
    rw [hpayload] at h
    cases h
    exact explains_of_payloadOfAnswer hpayload
  | ok payload =>
    simp only [hpayload] at h
    split at h
    · cases h
      exact explains_asFault hpayload _
    · cases h

theorem explains_of_foundIn {p : ReferencePoint} {fault : Fault}
    (h : Cycle.foundIn c p last.result = .error fault) : last.Explains fault := by
  unfold Cycle.foundIn stationsOfAnswer at h
  cases hpayload : c.payloadOfAnswer Query.onlineLocations last.result with
  | error told =>
    rw [hpayload] at h
    cases h
    exact explains_of_payloadOfAnswer hpayload
  | ok payload =>
    simp only [hpayload] at h
    cases hrank : rankPayload p payload with
    | error told =>
      simp only [hrank, Except.error.injEq] at h
      rw [← h]
      exact explains_asFault hpayload told
    | ok stations =>
      simp only [hrank] at h
      split at h
      · cases h
      · cases h
        exact explains_asFault hpayload (.shape _)

end Service

namespace Cycle

/-! ### Faults and outcomes -/

section

variable {stage other : Stage} {fault : Fault} {code : Int}

theorem outcomeOf_eq_httpFailure_iff : outcomeOf stage fault = .httpFailure code other ↔
    stage = other ∧ ∃ url reason, fault = .fetch (.status code url reason) := by
  cases fault with
  | fetch told => cases told <;> simp [outcomeOf, Outcome.ofFetchFault, and_comm]
  | _ => simp [outcomeOf]

theorem outcomeOf_eq_transportFailure_iff :
    (∃ told, outcomeOf stage fault = .transportFailure told other) ↔
      stage = other ∧ ∃ told, fault = .fetch told ∧ told.isTransport = true := by
  cases fault with
  | fetch told =>
    cases told <;> simp [outcomeOf, Outcome.ofFetchFault, FetchFault.isTransport]
  | _ => simp [outcomeOf]

theorem isSuccess_outcomeOf : (outcomeOf stage fault).isSuccess = false := by
  cases fault with
  | fetch told => cases told <;> rfl
  | _ => rfl

theorem outcomeOf_ne_configFailure (told : LocationFault) :
    outcomeOf stage fault ≠ .configFailure told := by
  cases fault with
  | fetch told => cases told <;> simp [outcomeOf, Outcome.ofFetchFault]
  | _ => simp [outcomeOf]

end

section

variable {service : Service} {registry : Registry} {settings : WeatherSettings}
variable {station : RankedStation} {replies : List Reply} {name : RawText}

/-! ### Readings up to a failing one -/

/-- Readings that succeed leave the others their replies. -/
theorem InTurn.exchange_readAll (hregistry : registry.HasTextChannels) {before : List RawText}
    {measured : List (Measurement × Float)}
    (h : InTurn service registry settings station before replies measured) (rest : List RawText)
    (values : ChannelValues) :
    ∃ table, (readAll service registry settings station (before ++ rest) values).exchange replies =
      let others := (readAll service registry settings station rest table).exchange
        (service.repliesAfter (askedPaths registry settings station before) replies)
      { others with
        requests := ((service.askAll (askedPaths registry settings station before)).exchange
          replies).requests ++ others.requests } := by
  induction h generalizing values with
  | nil replies => exact ⟨values, rfl⟩
  | @cons name names replies m x measured hm hx hrest ih =>
    obtain ⟨c, hc⟩ := hregistry.channel_eq hm
    obtain ⟨hrequests, hleft⟩ := exchange_read service settings station replies hm
    obtain ⟨table, htable⟩ := ih (putValue m.channel (.ofUnit x m.unit) values)
    rw [hleft] at htable
    refine ⟨table, ?_⟩
    have hkey : m.channel.isKey = true := by rw [hc]; rfl
    rw [List.cons_append, readAll]
    simp only [hm, Dialogue.exchange_bind, hx, hkey, if_true, htable, askedPaths_cons,
      Service.requests_askAll_append, Service.repliesAfter_append, hrequests, hleft,
      List.append_assoc]

/-- All measurements are read in turn, or a first one is not. -/
theorem exists_inTurn_or_unread (names : List RawText) (replies : List Reply) :
    (∃ measured, InTurn service registry settings station names replies measured) ∨
      ∃ before name after measured, names = before ++ name :: after ∧
        InTurn service registry settings station before replies measured ∧
        Unread service registry settings station
          (service.repliesAfter (askedPaths registry settings station before) replies) name := by
  induction names generalizing replies with
  | nil => exact .inl ⟨[], .nil replies⟩
  | cons name names ih =>
    by_cases hunread : Unread service registry settings station replies name
    · exact .inr ⟨[], name, names, [], rfl, .nil replies, hunread⟩
    · cases hm : registry.get? name with
      | none => exact absurd (.unknown hm) hunread
      | some m =>
        obtain ⟨-, hleft⟩ := exchange_read service settings station replies hm
        rw [unread_iff service settings station replies hm] at hunread
        cases hx : ((read service settings name m station).exchange replies).result with
        | error fault => exact absurd ⟨fault, hx⟩ hunread
        | ok x =>
          rcases ih ((read service settings name m station).exchange replies).rest with
            ⟨measured, hall⟩ | ⟨before, failed, after, measured, hsplit, hbefore, hfailed⟩
          · exact .inl ⟨_, .cons hm hx hall⟩
          · refine .inr ⟨name :: before, failed, after, _, by rw [hsplit, List.cons_append],
              .cons hm hx hbefore, ?_⟩
            rw [hleft] at hfailed
            rwa [askedPaths_cons, Service.repliesAfter_append]

/-- A reading whose request fails ends the readings with the fault of the request. -/
theorem exchange_readAll_of_failed_request {path : RawText} {fault : Fault}
    (hpath : askedPath registry settings station name = some path)
    (hfault : ((service.latest path name).exchange replies).result = .error fault)
    (after : List RawText) (values : ChannelValues) :
    settle ((readAll service registry settings station (name :: after) values).exchange
        replies).result = outcomeOf .fetch fault ∧
      ((readAll service registry settings station (name :: after) values).exchange
        replies).requests = ((service.send (service.address path)).exchange replies).requests := by
  obtain ⟨m, hm, hfixed, hquery⟩ := askedPath_eq_some_iff.1 hpath
  have hrequests : ((service.latest path name).exchange replies).requests =
      ((service.send (service.address path)).exchange replies).requests := by
    rw [Service.exchange_latest]
  rw [readAll]
  simp only [hm, Dialogue.exchange_bind, exchange_read_of_path hfixed hquery, hfault, Except.map,
    hrequests]
  cases fault <;> simp [settle, outcomeOf]

/-- A measurement that cannot be read although no request failed ends the readings as a response
that cannot be used would. -/
theorem settle_readAll_of_unread
    (h : Unread service registry settings station replies name)
    (hasked : ∀ path fault, askedPath registry settings station name = some path →
      ((service.latest path name).exchange replies).result ≠ .error fault)
    (after : List RawText) (values : ChannelValues) :
    ∃ cause, settle ((readAll service registry settings station (name :: after) values).exchange
      replies).result = .parseFailure cause .fetch := by
  rw [readAll]
  cases h with
  | unknown hm => exact ⟨.unknownMeasurement name, by simp [hm, settle]⟩
  | @placeholder m fault hm hfixed hfault =>
    refine ⟨.fault (.number fault), ?_⟩
    have hread : m.placeholder.toReal.mapError Fault.number = .error (.number fault) := by
      rw [hfault]
      rfl
    simp [hm, read_of_placeholder hfixed, hread, settle]
  | @query m fault hm hfixed hfault =>
    refine ⟨.fault (.query fault), ?_⟩
    simp [hm, read_of_no_path hfixed hfault, settle]
  | fetch hm hfixed hpath hfault =>
    exact absurd hfault (hasked _ _ (askedPath_eq_some_iff.2 ⟨_, hm, hfixed, hpath⟩))

/-- Readings that all succeed are a success. -/
theorem InTurn.isSuccess_readAll (hregistry : registry.HasTextChannels) {names : List RawText}
    {measured : List (Measurement × Float)}
    (h : InTurn service registry settings station names replies measured)
    (values : ChannelValues) :
    (settle ((readAll service registry settings station names values).exchange
      replies).result).isSuccess = true := by
  obtain ⟨table, htable⟩ := h.exchange_readAll hregistry [] values
  rw [List.append_nil] at htable
  rw [htable]
  rfl

end

/-! ### The end of a cycle -/

section

variable (service : Service) (registry : Registry) (settings : WeatherSettings)
variable (p : ReferencePoint) (replies : List Reply)

/-- The request that ends a cycle, by its stage, its query path and the replies that it finds. -/
inductive FailsAt : Stage → RawText → List Reply → Prop
  /-- The request for the locations yields no station. -/
  | search {fault : Fault}
      (hfault : foundIn service p (locationsAnswer service replies) = .error fault) :
      FailsAt .resolve Query.onlineLocations replies
  /-- The request for a measurement yields no observation, and all measurements before it were
  read. -/
  | reading {station : RankedStation} {count : Nat} {before : List RawText} {name : RawText}
      {after : List RawText} {measured : List (Measurement × Float)} {path : RawText}
      {fault : Fault}
      (hfound : foundIn service p (locationsAnswer service replies) = .ok (station, count))
      (hnames : settings.measurements = before ++ name :: after)
      (hbefore : InTurn service registry settings station before
        (service.repliesAfter [Query.onlineLocations] replies) measured)
      (hpath : askedPath registry settings station name = some path)
      (hfault : ((service.latest path name).exchange (service.repliesAfter
          (Query.onlineLocations :: askedPaths registry settings station before)
          replies)).result = .error fault) :
      FailsAt .fetch path (service.repliesAfter
        (Query.onlineLocations :: askedPaths registry settings station before) replies)

/-- A request ends a cycle, and this is the reply to the last attempt at it. -/
def EndsBy (stage : Stage) (last : Reply) : Prop :=
  ∃ path left failures, FailsAt service registry settings p replies stage path left ∧
    Service.Tries service.attemptLimit left failures last

/-- A station is found, and every measurement of the settings yields a value there. -/
def Completes : Prop :=
  ∃ station count measured,
    foundIn service p (locationsAnswer service replies) = .ok (station, count) ∧
    InTurn service registry settings station settings.measurements
      (service.repliesAfter [Query.onlineLocations] replies) measured

/-- The outcome of a cycle with the replies of a list. -/
def outcomeWith : Outcome := ((program service registry settings p).exchange replies).result

end

section

variable {service : Service} {registry : Registry} {settings : WeatherSettings}
variable {p : ReferencePoint} {replies left : List Reply} {stage : Stage} {path : RawText}

/-- The replies given to query paths and to a request after them. -/
theorem given_askAll_append (c : Service) (paths : List RawText) (replies : List Reply)
    {failures : List NetworkFailure} {last : Reply} {limit : Nat}
    (h : Service.Tries limit (c.repliesAfter paths replies) failures last) :
    ∃ earlier, given replies
      (((c.askAll paths).exchange replies).requests.length + (failures.length + 1)) =
        earlier ++ [last] := by
  rw [given_add, ← Dialogue.exchange_rest, ← Service.repliesAfter, h.given]
  exact ⟨_, (List.append_assoc _ _ _).symm⟩

/-- A cycle ends as its failing request says, and with it. -/
theorem FailsAt.exchange_program (hregistry : registry.HasTextChannels)
    (h : FailsAt service registry settings p replies stage path left)
    {failures : List NetworkFailure} {last : Reply}
    (htries : Service.Tries service.attemptLimit left failures last) :
    ∃ fault, last.Explains fault ∧
      outcomeWith service registry settings p replies = outcomeOf stage fault ∧
      ∃ earlier, given replies
        ((program service registry settings p).exchange replies).requests.length =
          earlier ++ [last] := by
  have hsend := htries.exchange_send (service.address path)
  unfold outcomeWith
  cases h with
  | @search fault hfault =>
    have hsearch := exchange_findStation service p replies
    rw [hfault, hsend] at hsearch
    rw [locationsAnswer, hsend] at hfault
    rw [exchange_program_of_error service registry settings p
      (congrArg Exchange.result hsearch), hsearch]
    refine ⟨fault, Service.explains_of_foundIn hfault, rfl, failures.map .failure, ?_⟩
    rw [List.length_replicate, htries.given]
  | @reading station count before name after measured path fault hfound hnames hbefore hpath
      hfault =>
    obtain ⟨table, htable⟩ := hbefore.exchange_readAll hregistry (name :: after) []
    rw [← hnames, ← Service.repliesAfter_append, List.singleton_append] at htable
    obtain ⟨hsettled, hrequests⟩ := exchange_readAll_of_failed_request hpath hfault after table
    rw [exchange_program_of_found service registry settings hfound, htable]
    rw [Service.exchange_latest, hsend] at hfault
    refine ⟨fault, Service.explains_of_observationOfAnswer hfault, hsettled, ?_⟩
    -- The replies to the paths before come first, and then those to the attempts.
    have hpaths := given_askAll_append service _ replies htries
    rw [← List.singleton_append, Service.requests_askAll_append, List.length_append,
      Nat.add_assoc] at hpaths
    simpa only [List.length_append, hrequests, hsend, List.length_replicate] using hpaths

theorem EndsBy.explains {last : Reply} (hregistry : registry.HasTextChannels)
    (h : EndsBy service registry settings p replies stage last) :
    ∃ fault, last.Explains fault ∧
      outcomeWith service registry settings p replies = outcomeOf stage fault := by
  obtain ⟨path, left, failures, hfails, htries⟩ := h
  obtain ⟨fault, hexplains, houtcome, -⟩ := hfails.exchange_program hregistry htries
  exact ⟨fault, hexplains, houtcome⟩

theorem FailsAt.endsBy (h : FailsAt service registry settings p replies stage path left) :
    ∃ last, EndsBy service registry settings p replies stage last := by
  obtain ⟨failures, last, htries⟩ := Service.exists_tries service.attemptLimit_pos left
  exact ⟨last, path, left, failures, h, htries⟩

theorem Completes.isSuccess (hregistry : registry.HasTextChannels)
    (h : Completes service registry settings p replies) :
    (outcomeWith service registry settings p replies).isSuccess = true := by
  obtain ⟨station, count, measured, hfound, hall⟩ := h
  rw [outcomeWith, exchange_program_of_found service registry settings hfound]
  exact hall.isSuccess_readAll hregistry []

end

section

variable (service : Service) {registry : Registry} (settings : WeatherSettings)
variable (p : ReferencePoint) (replies : List Reply)

/-- Every cycle fails at a request, completes, or meets a measurement that no request could make
usable. -/
theorem exists_end (hregistry : registry.HasTextChannels) :
    (∃ stage last, EndsBy service registry settings p replies stage last) ∨
      Completes service registry settings p replies ∨
      ∃ cause, outcomeWith service registry settings p replies = .parseFailure cause .fetch := by
  cases hfound : foundIn service p (locationsAnswer service replies) with
  | error fault => exact .inl ⟨_, (FailsAt.search hfound).endsBy⟩
  | ok found =>
    obtain ⟨station, count⟩ := found
    rcases exists_inTurn_or_unread settings.measurements
      (service.repliesAfter [Query.onlineLocations] replies) with
      ⟨measured, hall⟩ | ⟨before, name, after, measured, hnames, hbefore, hunread⟩
    · exact .inr (.inl ⟨station, count, measured, hfound, hall⟩)
    · rw [← Service.repliesAfter_append, List.singleton_append] at hunread
      -- Whether a request failed or none was needed decides what the measurement lacks.
      by_cases hasked : ∃ path fault, askedPath registry settings station name = some path ∧
          ((service.latest path name).exchange (service.repliesAfter
            (Query.onlineLocations :: askedPaths registry settings station before)
            replies)).result = .error fault
      · obtain ⟨path, fault, hpath, hfault⟩ := hasked
        exact .inl ⟨_, (FailsAt.reading hfound hnames hbefore hpath hfault).endsBy⟩
      · have hnone : ∀ path fault, askedPath registry settings station name = some path →
            ((service.latest path name).exchange (service.repliesAfter
              (Query.onlineLocations :: askedPaths registry settings station before)
              replies)).result ≠ .error fault :=
          fun path fault hpath hfault => hasked ⟨path, fault, hpath, hfault⟩
        obtain ⟨table, htable⟩ := hbefore.exchange_readAll hregistry (name :: after) []
        rw [← hnames, ← Service.repliesAfter_append, List.singleton_append] at htable
        obtain ⟨cause, hcause⟩ := settle_readAll_of_unread hunread hnone after table
        refine .inr (.inr ⟨cause, ?_⟩)
        rw [outcomeWith, exchange_program_of_found service registry settings hfound, htable]
        exact hcause

/-- A cycle that neither completes nor meets something unusable fails at a request, and its outcome
tells of the last reply to it. -/
theorem exists_endsBy (hregistry : registry.HasTextChannels) {outcome : Outcome}
    (houtcome : outcomeWith service registry settings p replies = outcome)
    (hfailed : outcome.isSuccess = false)
    (hother : ∀ cause, outcome ≠ .parseFailure cause .fetch) : ∃ stage last fault,
      EndsBy service registry settings p replies stage last ∧ last.Explains fault ∧
        outcome = outcomeOf stage fault := by
  rcases exists_end service settings p replies hregistry with
    ⟨stage, last, hend⟩ | hall | ⟨cause, hparse⟩
  · obtain ⟨fault, hexplains, hresult⟩ := hend.explains hregistry
    exact ⟨stage, last, fault, hend, hexplains, houtcome.symm.trans hresult⟩
  · have hsuccess := hall.isSuccess hregistry
    rw [houtcome, hfailed] at hsuccess
    cases hsuccess
  · exact absurd (houtcome.symm.trans hparse) (hother cause)

/-- Another status than 200 is told if and only if it ends the cycle. -/
theorem outcomeWith_eq_httpFailure_iff (hregistry : registry.HasTextChannels) (code : Int)
    (stage : Stage) :
    outcomeWith service registry settings p replies = .httpFailure code stage ↔ ∃ response,
      EndsBy service registry settings p replies stage (.response response) ∧
        response.status = code ∧ code ≠ 200 := by
  constructor
  · intro houtcome
    obtain ⟨other, last, fault, hend, hexplains, hresult⟩ :=
      exists_endsBy service settings p replies hregistry houtcome rfl (by simp)
    obtain ⟨rfl, hstatus⟩ := outcomeOf_eq_httpFailure_iff.1 hresult.symm
    obtain ⟨response, rfl, hcode, hne⟩ := (hexplains.status code).1 hstatus
    exact ⟨response, hend, hcode, hne⟩
  · rintro ⟨response, hend, hcode, hne⟩
    obtain ⟨fault, hexplains, hresult⟩ := hend.explains hregistry
    rw [hresult]
    exact outcomeOf_eq_httpFailure_iff.2
      ⟨rfl, (hexplains.status code).2 ⟨response, rfl, hcode, hne⟩⟩

/-- A failure of the transport is told if and only if it ends the cycle and comes from the
request. -/
theorem outcomeWith_eq_transportFailure_iff (hregistry : registry.HasTextChannels)
    (stage : Stage) :
    (∃ told, outcomeWith service registry settings p replies = .transportFailure told stage) ↔
      ∃ failure, EndsBy service registry settings p replies stage (.failure failure) ∧
        failure.kind.isRequest = true := by
  constructor
  · rintro ⟨told, houtcome⟩
    obtain ⟨other, last, fault, hend, hexplains, hresult⟩ :=
      exists_endsBy service settings p replies hregistry houtcome rfl (by simp)
    obtain ⟨rfl, htold⟩ := outcomeOf_eq_transportFailure_iff.1 ⟨told, hresult.symm⟩
    obtain ⟨failure, rfl, hkind⟩ := hexplains.transport.1 htold
    exact ⟨failure, hend, hkind⟩
  · rintro ⟨failure, hend, hkind⟩
    obtain ⟨fault, hexplains, hresult⟩ := hend.explains hregistry
    rw [hresult]
    exact outcomeOf_eq_transportFailure_iff.2 ⟨rfl, hexplains.transport.2 ⟨failure, rfl, hkind⟩⟩

theorem isSuccess_outcomeWith_iff (hregistry : registry.HasTextChannels) :
    (outcomeWith service registry settings p replies).isSuccess = true ↔
      Completes service registry settings p replies := by
  refine ⟨fun houtcome => ?_, Completes.isSuccess hregistry⟩
  rcases exists_end service settings p replies hregistry with
    ⟨stage, last, hend⟩ | hall | ⟨cause, hparse⟩
  · obtain ⟨fault, -, hresult⟩ := hend.explains hregistry
    rw [hresult, isSuccess_outcomeOf] at houtcome
    cases houtcome
  · exact hall
  · rw [hparse] at houtcome
    cases houtcome

/-- The settings are no matter of a cycle. -/
theorem outcomeWith_ne_configFailure (hregistry : registry.HasTextChannels)
    (told : LocationFault) :
    outcomeWith service registry settings p replies ≠ .configFailure told := by
  intro houtcome
  obtain ⟨stage, last, fault, -, -, hresult⟩ :=
    exists_endsBy service settings p replies hregistry houtcome rfl (by simp)
  exact outcomeOf_ne_configFailure told hresult.symm

end

/-- What the outcome of a cycle says about the replies. -/
structure Classifies (service : Service) (registry : Registry) (settings : WeatherSettings)
    (p : ReferencePoint) (replies : List Reply) (outcome : Outcome) : Prop where
  /-- The request that ends the cycle was answered with another status than 200. -/
  http : ∀ code stage, outcome = .httpFailure code stage ↔ ∃ response,
    EndsBy service registry settings p replies stage (.response response) ∧
      response.status = code ∧ code ≠ 200
  /-- The last attempt at that request failed for a reason that comes from the request. -/
  transport : ∀ stage, (∃ told, outcome = .transportFailure told stage) ↔ ∃ failure,
    EndsBy service registry settings p replies stage (.failure failure) ∧
      failure.kind.isRequest = true
  /-- Everything was read. -/
  success : outcome.isSuccess = true ↔ Completes service registry settings p replies
  /-- Anything else. -/
  parse : (∃ cause stage, outcome = .parseFailure cause stage) ↔
    ¬ Completes service registry settings p replies ∧
      ∀ stage last, EndsBy service registry settings p replies stage last →
        (∀ response, last = .response response → response.status = 200) ∧
          ∀ failure, last = .failure failure → failure.kind.isRequest = false

theorem classifies_outcomeWith (service : Service) {registry : Registry}
    (settings : WeatherSettings) (p : ReferencePoint) (replies : List Reply)
    (hregistry : registry.HasTextChannels) :
    Classifies service registry settings p replies
      (outcomeWith service registry settings p replies) := by
  have http := outcomeWith_eq_httpFailure_iff service settings p replies hregistry
  have htransport := outcomeWith_eq_transportFailure_iff service settings p replies hregistry
  have hsuccess := isSuccess_outcomeWith_iff service settings p replies hregistry
  have hconfig := outcomeWith_ne_configFailure service settings p replies hregistry
  refine ⟨http, htransport, hsuccess, ?_⟩
  -- A response that cannot be used is what is left when the other outcomes are excluded.
  generalize outcomeWith service registry settings p replies = outcome at *
  constructor
  · rintro ⟨cause, stage, rfl⟩
    refine ⟨fun hall => ?_, fun other last hend => ⟨?_, ?_⟩⟩
    · cases hsuccess.2 hall
    · rintro response rfl
      by_contra hne
      cases (http response.status other).2 ⟨response, hend, rfl, hne⟩
    · rintro failure rfl
      cases hkind : failure.kind.isRequest with
      | false => rfl
      | true =>
        obtain ⟨fault, houtcome⟩ := (htransport other).2 ⟨failure, hend, hkind⟩
        cases houtcome
  · rintro ⟨hnot, hother⟩
    cases outcome with
    | success table station => exact absurd (hsuccess.1 rfl) hnot
    | httpFailure code stage =>
      obtain ⟨response, hend, hcode, hne⟩ := (http code stage).1 rfl
      exact absurd (hcode.symm.trans ((hother stage _ hend).1 response rfl)) hne
    | transportFailure fault stage =>
      obtain ⟨failure, hend, hkind⟩ := (htransport stage).1 ⟨fault, rfl⟩
      rw [(hother stage _ hend).2 failure rfl] at hkind
      cases hkind
    | parseFailure cause stage => exact ⟨cause, stage, rfl⟩
    | configFailure told => exact absurd rfl (hconfig told)

end Cycle

/-- An outcome is told as a failure to communicate if the search failed or no response arrived. -/
theorem Outcome.detail_update_iff (outcome : Outcome) :
    outcome.update.detail = some .communicationError ↔
      outcome.stage? = some .resolve ∨ ∃ fault stage, outcome = .transportFailure fault stage := by
  cases outcome with
  | httpFailure code stage => cases stage <;> simp [update, StatusUpdate.offline, stage?]
  | parseFailure cause stage => cases stage <;> simp [update, StatusUpdate.offline, stage?]
  | _ => simp [update, StatusUpdate.offline, StatusUpdate.online, stage?]

/-- An outcome told as a failure to communicate degrades the cycle, and any other one is just
published. -/
theorem Outcome.phase_eq_degraded_iff (outcome : Outcome) :
    (outcome.phase = .degraded ↔ outcome.update.detail = some .communicationError) ∧
      (outcome.phase ≠ .degraded → outcome.phase = .publishing) := by
  by_cases hdetail : outcome.update.detail = some .communicationError
  · simp [phase, hdetail]
  · simp [phase, hdetail]

namespace Session

/-- **The outcome of a cycle tells how it ended.**  The request that ends a cycle is its last one.
If the last reply to it is a response with another status than 200, that status and the stage are
the outcome; if no response arrived for a reason that comes from the request, the outcome is a
failure of the transport in that stage; and it is a success if everything was read.  Anything else
is a response that cannot be used.  The cycle is degraded if and only if a failure to communicate is
published, which is so if and only if the search failed or no response arrived; otherwise its
outcome was just published. -/
theorem runCycle_classifies (service : Service) (registry : Registry) (settings : WeatherSettings)
    (p : ReferencePoint) (s : Session) (hregistry : registry.HasTextChannels) :
    ∃ outcome after sent, s.runCycle service registry settings p = (outcome, after) ∧
      Cycle.Classifies service registry settings p s.replies outcome ∧
      after.journal.requests = s.journal.requests ++ sent ∧
      (∀ stage last, Cycle.EndsBy service registry settings p s.replies stage last →
        ∃ earlier, given s.replies sent.length = earlier ++ [last]) ∧
      ∃ (values : ChannelValues) (update : StatusUpdate),
        after.journal.announcements = s.journal.announcements ++
          (values.map fun row => .value row.1 row.2) ++ [.status update] ∧
        (update.detail = some .communicationError ↔
          outcome.stage? = some .resolve ∨
            ∃ told stage, outcome = .transportFailure told stage) ∧
        (after.phase = .degraded ↔ update.detail = some .communicationError) ∧
        (after.phase ≠ .degraded → after.phase = .publishing) := by
  have hclassified := Cycle.classifies_outcomeWith service settings p s.replies hregistry
  have hannounced := announcements_runCycle service registry settings p s
  have hphase := phase_runCycle service registry settings p s
  have hrequests := requests_runCycle service registry settings p s
  rw [Cycle.outcomeWith, ← runCycle_fst] at hclassified
  obtain ⟨outcome, after, hrun⟩ : ∃ outcome after,
      s.runCycle service registry settings p = (outcome, after) := ⟨_, _, rfl⟩
  rw [hrun] at hclassified hannounced hphase hrequests
  refine ⟨outcome, after, _, hrun, hclassified, hrequests, ?_, outcome.values, outcome.update, ?_,
    outcome.detail_update_iff, ?_⟩
  · rintro stage last ⟨path, left, failures, hfails, htries⟩
    obtain ⟨-, -, -, hlast⟩ := hfails.exchange_program hregistry htries
    exact hlast
  · rw [hannounced, Outcome.announcements, List.append_assoc]
  · rw [hphase]
    exact outcome.phase_eq_degraded_iff

/-- A location, a time limit that passes, and an error of the server. -/
def brokenReplies : List Reply :=
  [.response ⟨200, locationBody, "OK"⟩, .failure ⟨.readTimeout, none⟩,
    .response ⟨500, "", "Server Error"⟩]

/-- With two attempts the error of the server ends the cycle, not the time limit. -/
theorem runCycle_tells_last_reply :
    Registry.builtIn.HasTextChannels ∧
    Cycle.EndsBy (.connect { baseUrl := "/v1", attempts := 2 }) .builtIn {} ⟨51.2, 7.1⟩
      brokenReplies .fetch (.response ⟨500, "", "Server Error"⟩) ∧
    ((ofReplies brokenReplies).runCycle (.connect { baseUrl := "/v1", attempts := 2 }) .builtIn
      {} ⟨51.2, 7.1⟩).1 = .httpFailure 500 .fetch := by
  obtain ⟨outcome, after, sent, hrun, hclassified, hsent, hlast, -⟩ :=
    runCycle_classifies (.connect { baseUrl := "/v1", attempts := 2 }) .builtIn {} ⟨51.2, 7.1⟩
      (ofReplies brokenReplies) Registry.builtIn_hasTextChannels
  have houtcome : outcome = .httpFailure 500 .fetch := congrArg Prod.fst hrun.symm
  obtain ⟨response, hend, -, -⟩ := (hclassified.http 500 .fetch).1 houtcome
  -- Three requests were sent, so the last reply is the last one of the list.
  have hafter : ((ofReplies brokenReplies).runCycle
      (.connect { baseUrl := "/v1", attempts := 2 }) .builtIn {} ⟨51.2, 7.1⟩).2 = after :=
    congrArg Prod.snd hrun
  have hcount : sent = after.journal.requests := by
    rw [hsent]
    rfl
  obtain ⟨earlier, hearlier⟩ := hlast _ _ hend
  rw [hcount, ← hafter] at hearlier
  have hreply := congrArg List.getLast? hearlier
  rw [List.getLast?_concat] at hreply
  rw [← Option.some.inj hreply] at hend
  exact ⟨Registry.builtIn_hasTextChannels, hend, (congrArg Prod.fst hrun).trans houtcome⟩

end Session

end StationWatch
