import StationWatch.Proofs.Exchange

/-!
# A request and its attempts

A request is tried again only after a failure that may pass by itself, so all attempts but the last
one fail, and what becomes of the request depends on the reply to the last one alone.  Whoever
fetches the value behind a query path is promised a value or a fault that tells what is wrong with
the request.  The promise is broken by two kinds of last replies: a failure that does not come from
the request, and a value nested too deeply.  Their faults are passed on as they come.

## Main definitions

* `given` — the replies that a network gives to requests in a row.
* `Service.Tries` — the attempts at a request, by their replies.
* `Service.Got`, `Service.Fetched` — what a request is promised to come to.
* `Reply.Unforeseen` — the last replies that break the promise.

## Main results

* `Dialogue.exchange_rest` — a dialogue uses up one reply for each request.
* `Service.exists_tries`, `Service.Tries.exchange_send` — a request is the attempts at it.
* `Service.exchange_fetch` — what is fetched depends on the final answer alone.
* `Service.fetch_tells_unless_unforeseen` — when the promise is kept.

## References

`SPEC_FULL.md`, sections 6 and 10.2, on requests and their faults.
-/

namespace StationWatch

/-! ### What a network gives -/

/-- The replies that a network gives to a number of requests in a row. -/
def given : List Reply → Nat → List Reply
  | _, 0 => []
  | replies, n + 1 => replies.headD exhausted :: given replies.tail n

/-- The replies to further requests are given from those that are left. -/
theorem given_add (replies : List Reply) (m n : Nat) :
    given replies (m + n) = given replies m ++ given (replies.drop m) n := by
  induction m generalizing replies with
  | zero => simp [given]
  | succ m ih =>
    rw [Nat.add_right_comm, given, given, ih, List.drop_tail]
    rfl

/-- A dialogue uses up one reply for each request. -/
theorem Dialogue.exchange_rest {α : Type} (d : Dialogue α) (replies : List Reply) :
    (d.exchange replies).rest = replies.drop (d.exchange replies).requests.length := by
  induction d generalizing replies with
  | done result => rfl
  | act effect rest ih => exact ih replies
  | ask request next ih =>
    simp only [exchange, ih, List.drop_tail, List.length_cons]

namespace Service

/-! ### Attempts -/

/-- How often a request may be tried. -/
def attemptLimit (c : Service) : Nat := (max 1 c.attempts).toNat

/-- The attempts at a request, by their replies: all but the last one fail for a passing reason, and
the last one does not, unless no further one is allowed. -/
structure Tries (limit : Nat) (replies : List Reply) (failures : List NetworkFailure)
    (last : Reply) : Prop where
  /-- The network gives these replies. -/
  given : given replies (failures.length + 1) = failures.map .failure ++ [last]
  /-- What is tried again has failed for a passing reason. -/
  passing : ∀ failure ∈ failures, failure.isTransient = true
  /-- There are no more attempts than allowed. -/
  allowed : failures.length < limit
  /-- A passing failure is the last one only if all attempts were made. -/
  spent : ∀ failure, last = .failure failure → failure.isTransient = true →
    failures.length + 1 = limit

variable {c : Service} {limit : Nat} {replies : List Reply} {failures : List NetworkFailure}
variable {last : Reply}

/-- An attempt that ends the request. -/
theorem Tries.single (hpos : 0 < limit)
    (h : ∀ failure, replies.headD exhausted = .failure failure → failure.isTransient = true →
      limit = 1) : Tries limit replies [] (replies.headD exhausted) where
  given := rfl
  passing := by simp
  allowed := hpos
  spent failure hlast hpassing := (h failure hlast hpassing).symm

/-- An attempt that fails for a passing reason before others. -/
theorem Tries.cons {failure : NetworkFailure} (hhead : replies.headD exhausted = .failure failure)
    (hpassing : failure.isTransient = true) (h : Tries limit replies.tail failures last) :
    Tries (limit + 1) replies (failure :: failures) last where
  given := by
    rw [List.length_cons, StationWatch.given, hhead, h.given]
    rfl
  passing := List.forall_mem_cons.2 ⟨hpassing, h.passing⟩
  allowed := Nat.succ_lt_succ h.allowed
  spent other hlast hother := congrArg (· + 1) (h.spent other hlast hother)

/-- Every request has its attempts. -/
theorem exists_tries (hpos : 0 < limit) (replies : List Reply) :
    ∃ failures last, Tries limit replies failures last := by
  induction limit generalizing replies with
  | zero => omega
  | succ left ih =>
    cases hhead : replies.headD exhausted with
    | response response =>
      refine ⟨[], _, .single hpos fun failure hfailure => ?_⟩
      rw [hhead] at hfailure
      cases hfailure
    | failure failure =>
      by_cases hagain : failure.isTransient = true ∧ 0 < left
      · obtain ⟨failures, last, h⟩ := ih hagain.2 replies.tail
        exact ⟨_, _, h.cons hhead hagain.1⟩
      · refine ⟨[], _, .single hpos fun other hother hpassing => ?_⟩
        rw [hhead, Reply.failure.injEq] at hother
        have hnone : ¬ 0 < left := fun hleft => hagain ⟨by rw [hother]; exact hpassing, hleft⟩
        omega

section

variable {r : Request} {n : Nat}
  {again : NetworkFailure → Dialogue (Except NetworkFailure Response)}

/-- An attempt without a passing failure is the last one. -/
theorem exchange_tryOnce_last (hhead : replies.headD exhausted = last)
    (hlast : ∀ failure, last = .failure failure → failure.isTransient = false) :
    (RetryPolicy.tryOnce c.around NetworkFailure.isTransient
      (Reply.result <$> Dialogue.request r) n again).exchange replies =
        ⟨last.result, [r], replies.tail⟩ := by
  rw [RetryPolicy.tryOnce, Dialogue.exchange_bind, Dialogue.exchange_map,
    Dialogue.exchange_request, hhead]
  cases last with
  | response response => rfl
  | failure failure => simp [Reply.result, hlast failure rfl]

/-- After a passing failure what follows has the other replies. -/
theorem exchange_tryOnce_again {failure : NetworkFailure}
    (hhead : replies.headD exhausted = .failure failure) (hpassing : failure.isTransient = true) :
    (RetryPolicy.tryOnce c.around NetworkFailure.isTransient
      (Reply.result <$> Dialogue.request r) n again).exchange replies =
        { (again failure).exchange replies.tail with
          requests := r :: ((again failure).exchange replies.tail).requests } := by
  rw [RetryPolicy.tryOnce, Dialogue.exchange_bind, Dialogue.exchange_map,
    Dialogue.exchange_request, hhead]
  simp [Reply.result, hpassing, around]

end

/-- A request comes to what the reply to the last attempt says, however long the pauses are. -/
theorem Tries.exchange_attempt {left : Nat} (h : Tries (left + 1) replies failures last)
    (pauseAfter : Nat → Float) (r : Request) (n : Nat) :
    (RetryPolicy.attempt c.around pauseAfter NetworkFailure.isTransient
      (Reply.result <$> Dialogue.request r) left n).exchange replies =
        ⟨last.result, List.replicate (failures.length + 1) r,
          replies.drop (failures.length + 1)⟩ := by
  -- The attempts follow the failures, of which each one leaves one attempt less.
  induction failures generalizing replies left n with
  | nil =>
    have hlast : replies.headD exhausted = last := (List.cons.inj h.given).1
    rw [List.length_nil, List.drop_one]
    cases left with
    | succ left =>
      refine exchange_tryOnce_last hlast fun failure hfailure => ?_
      cases hpassing : failure.isTransient with
      | false => rfl
      | true => exact absurd (h.spent failure hfailure hpassing) (by simp)
    | zero =>
      by_cases hpassing : ∃ failure, last = .failure failure ∧ failure.isTransient = true
      · obtain ⟨failure, rfl, hpassing⟩ := hpassing
        exact exchange_tryOnce_again hlast hpassing
      · exact exchange_tryOnce_last hlast (by simpa using hpassing)
  | cons failure failures ih =>
    obtain ⟨hhead, hgiven⟩ := List.cons.inj h.given
    have hpassing := h.passing failure List.mem_cons_self
    cases left with
    | zero => exact absurd h.allowed (by simp)
    | succ left =>
      have hrest : Tries (left + 1) replies.tail failures last :=
        ⟨hgiven, fun other hother => h.passing other (List.mem_cons_of_mem _ hother),
          Nat.lt_of_succ_lt_succ h.allowed,
          fun other hlast hother => Nat.succ.inj (h.spent other hlast hother)⟩
      have hagain := ih hrest (n + 1)
      rw [RetryPolicy.attempt, exchange_tryOnce_again hhead hpassing]
      simp only [around, Dialogue.exchange_bind, Dialogue.exchange_log, Dialogue.exchange_pause,
        List.nil_append] at hagain ⊢
      rw [hagain, List.drop_tail]
      rfl

theorem attemptLimit_eq (c : Service) : c.attemptLimit = (c.attempts - 1).toNat + 1 := by
  unfold attemptLimit
  omega

theorem attemptLimit_pos (c : Service) : 0 < c.attemptLimit := by
  rw [attemptLimit_eq]
  omega

theorem Tries.exchange_send (h : Tries c.attemptLimit replies failures last) (url : RawText) :
    (c.send url).exchange replies =
      ⟨last.result, List.replicate (failures.length + 1) (c.requestFor url),
        replies.drop (failures.length + 1)⟩ := by
  rw [attemptLimit_eq] at h
  exact h.exchange_attempt _ _ _

/-- A request with its attempts sends nothing else. -/
theorem requests_send (c : Service) (url : RawText) (replies : List Reply) :
    ∃ more, ((c.send url).exchange replies).requests =
      List.replicate (more + 1) (c.requestFor url) := by
  obtain ⟨failures, last, h⟩ := exists_tries c.attemptLimit_pos replies
  exact ⟨failures.length, by rw [h.exchange_send]⟩

/-- Any response ends the attempts. -/
theorem result_send_response (c : Service) (url : RawText) (response : Response)
    (rest : List Reply) :
    ((c.send url).exchange (.response response :: rest)).result = .ok response := by
  have hhead : (Reply.response response :: rest).headD exhausted = .response response := rfl
  have hlast : ∀ failure, Reply.response response = .failure failure →
      failure.isTransient = false := fun _ hfailure => nomatch hfailure
  unfold send RetryPolicy.run
  cases (c.policy.attempts - 1).toNat <;>
    rw [RetryPolicy.attempt, exchange_tryOnce_last hhead hlast] <;> rfl

/-! ### The value behind a query path -/

@[simp] theorem exchange_noteResponse (response : Response) (payload : Except Fault Json)
    (replies : List Reply) :
    (noteResponse response payload).exchange replies = ⟨(), [], replies⟩ := by
  unfold noteResponse
  split
  · rfl
  · cases payload <;> rfl

/-- What a final answer to the request for a query path means. -/
def responseOfAnswer (c : Service) (path : RawText) :
    Except NetworkFailure Response → Except Fault Response
  | .ok response => .ok response
  | .error failure => .error (c.faultOf (c.address path) failure)

theorem exchange_get (c : Service) (path : RawText) (replies : List Reply) :
    (c.get path).exchange replies =
      { (c.send (c.address path)).exchange replies with
        result :=
          c.responseOfAnswer path ((c.send (c.address path)).exchange replies).result } := by
  simp only [get, Dialogue.exchange_bind, Dialogue.exchange_log]
  cases ((c.send (c.address path)).exchange replies).result with
  | ok response => simp [responseOfAnswer]
  | error failure => simp [responseOfAnswer]

/-- What a final answer to the request for a query path yields. -/
def payloadOfAnswer (c : Service) (path : RawText) :
    Except NetworkFailure Response → Except Fault Json
  | .ok response => c.payloadOf path response
  | .error failure => .error (c.faultOf (c.address path) failure)

theorem exchange_fetch (c : Service) (path : RawText) (replies : List Reply) :
    (c.fetch path).exchange replies =
      { (c.send (c.address path)).exchange replies with
        result := c.payloadOfAnswer path ((c.send (c.address path)).exchange replies).result } := by
  simp only [fetch, Dialogue.exchange_bind, exchange_get]
  cases ((c.send (c.address path)).exchange replies).result with
  | ok response => simp [responseOfAnswer, payloadOfAnswer]
  | error failure => simp [responseOfAnswer, payloadOfAnswer]

/-! ### What is promised -/

/-- What whoever asks for a query path is promised, by the reply to the last attempt: any response,
or a fault that no response arrived, which says whether the time limit passed. -/
inductive Got (c : Service) (path : RawText) : Reply → Except Fault Response → Prop
  /-- A response is handed on, whatever its status. -/
  | response (response : Response) : Got c path (.response response) (.ok response)
  /-- No response arrived. -/
  | transport {failure : NetworkFailure} {told : FetchFault} (htransport : told.isTransport = true)
      (hmessage : told.message =
        if failure.kind.isTimeout then
          "Request timed out after " ++ Decimal.text c.timeout ++ "s: " ++ c.address path
        else "Request failed: " ++ failure.message) :
      Got c path (.failure failure) (.error (.fetch told))

/-- What whoever fetches the value behind a query path is promised, by the reply to the last
attempt. -/
inductive Fetched (c : Service) (path : RawText) : Reply → Except Fault Json → Prop
  /-- No response arrived. -/
  | transport {failure : NetworkFailure} {fault : Fault}
      (hgot : c.Got path (.failure failure) (.error fault)) :
      Fetched c path (.failure failure) (.error fault)
  /-- Any status but one is a fault, whatever the body. -/
  | status {response : Response} (hstatus : response.status ≠ 200) :
      Fetched c path (.response response)
        (.error (.fetch (.status response.status (c.address path) response.reason)))
  /-- The body is a value. -/
  | value {response : Response} {payload : Json} (hstatus : response.status = 200)
      (hparse : Json.parse c.platform.nestingLimit response.body = .ok payload) :
      Fetched c path (.response response) (.ok payload)
  /-- The body is none. -/
  | notJson {response : Response} {fault : Json.Fault} (hstatus : response.status = 200)
      (hparse : Json.parse c.platform.nestingLimit response.body = .error fault) :
      Fetched c path (.response response) (.error (.fetch (.notJson fault)))

end Service

/-- The last replies that break the promise, with the fault that is passed on as it comes: a failure
that does not come from the request, and a value nested more deeply than can be read. -/
inductive Reply.Unforeseen (nestingLimit : Nat) : Reply → Fault → Prop
  /-- A failure that does not come from the request. -/
  | failure {failure : NetworkFailure} (hkind : failure.kind.isRequest = false) :
      Unforeseen nestingLimit (.failure failure) (.network failure)
  /-- A value nested too deeply. -/
  | nested {response : Response} (hstatus : response.status = 200)
      (hparse : Json.parse nestingLimit response.body = .error .tooDeep) :
      Unforeseen nestingLimit (.response response) .tooDeep

theorem FailureKind.isRequest_of_isTimeout {kind : FailureKind} (h : kind.isTimeout = true) :
    kind.isRequest = true := by
  cases kind <;> first | rfl | cases h

namespace Service

variable {c : Service} {path : RawText}

/-- A failure that comes from the request is told, with whether the time limit passed. -/
theorem faultOf_of_isRequest {failure : NetworkFailure} (h : failure.kind.isRequest = true)
    (url : RawText) : ∃ told, c.faultOf url failure = .fetch told ∧ told.isTransport = true ∧
      told.message =
        if failure.kind.isTimeout then
          "Request timed out after " ++ Decimal.text c.timeout ++ "s: " ++ url
        else "Request failed: " ++ failure.message := by
  cases htimeout : failure.kind.isTimeout with
  | true => exact ⟨.timedOut c.timeout url, by simp [faultOf, htimeout], rfl, rfl⟩
  | false => exact ⟨.failed failure, by simp [faultOf, htimeout, h], rfl, rfl⟩

/-- Any other failure is passed on. -/
theorem faultOf_of_not_isRequest {failure : NetworkFailure} (h : failure.kind.isRequest = false)
    (url : RawText) : c.faultOf url failure = .network failure := by
  cases htimeout : failure.kind.isTimeout with
  | true =>
    rw [FailureKind.isRequest_of_isTimeout htimeout] at h
    cases h
  | false => simp [faultOf, htimeout, h]

theorem not_got_network {failure : NetworkFailure} :
    ¬ c.Got path (.failure failure) (.error (.network failure)) := by
  intro h
  cases h

/-- Any response is handed on, and a failure is told unless it does not come from the request. -/
theorem got_iff {last : Reply} :
    c.Got path last (c.responseOfAnswer path last.result) ↔
      ∀ failure, last = .failure failure → failure.kind.isRequest = true := by
  cases last with
  | response response =>
    refine ⟨fun _ failure hfailure => ?_, fun _ => .response response⟩
    cases hfailure
  | failure failure =>
    rw [Reply.result, responseOfAnswer]
    constructor
    · rintro hgot _ ⟨⟩
      cases hkind : failure.kind.isRequest with
      | true => rfl
      | false =>
        rw [faultOf_of_not_isRequest hkind] at hgot
        exact absurd hgot not_got_network
    · intro h
      obtain ⟨told, hfault, htransport, hmessage⟩ :=
        faultOf_of_isRequest (h failure rfl) (c.address path)
      rw [hfault]
      exact .transport htransport hmessage

/-- A fault that is not told is passed on as it comes. -/
theorem payloadOfAnswer_of_unforeseen {last : Reply} {fault : Fault}
    (h : last.Unforeseen c.platform.nestingLimit fault) :
    c.payloadOfAnswer path last.result = .error fault := by
  cases h with
  | failure hkind => exact congrArg Except.error (faultOf_of_not_isRequest hkind _)
  | @nested response hstatus hparse =>
    simp [Reply.result, payloadOfAnswer, payloadOf, hstatus, hparse]

/-- Every other one is told. -/
theorem fetched_of_not_unforeseen {last : Reply}
    (h : ∀ fault, ¬ last.Unforeseen c.platform.nestingLimit fault) :
    c.Fetched path last (c.payloadOfAnswer path last.result) := by
  cases last with
  | failure failure =>
    have hkind : failure.kind.isRequest = true := by
      simpa using fun hkind => h _ (.failure hkind)
    exact .transport (got_iff.2 fun other hother => by cases hother; exact hkind)
  | response response =>
    by_cases hstatus : response.status = 200
    · cases hparse : Json.parse c.platform.nestingLimit response.body with
      | ok payload =>
        simp only [Reply.result, payloadOfAnswer, payloadOf, hstatus, hparse]
        exact .value hstatus hparse
      | error fault =>
        have hdeep : fault ≠ .tooDeep := fun hdeep => h _ (.nested hstatus (hdeep ▸ hparse))
        have hresult : c.payloadOfAnswer path (Reply.response response).result =
            .error (.fetch (.notJson fault)) := by
          cases fault <;>
            simp [Reply.result, payloadOfAnswer, payloadOf, hstatus, hparse] at hdeep ⊢
        rw [hresult]
        exact .notJson hstatus hparse
    · simp only [Reply.result, payloadOfAnswer, payloadOf, ne_eq, hstatus, not_false_eq_true,
        if_true]
      exact .status hstatus

/-- The fault of an unforeseen reply is none that is promised. -/
theorem not_fetched_of_unforeseen {last : Reply} {fault : Fault}
    (h : last.Unforeseen c.platform.nestingLimit fault) :
    ¬ c.Fetched path last (.error fault) := by
  cases h with
  | failure hkind =>
    intro hfetched
    cases hfetched with
    | transport hgot => exact not_got_network hgot
  | nested hstatus hparse =>
    intro hfetched
    cases hfetched

/-- **A fetch tells what is wrong with a request unless that is unforeseen.**  A request is tried up
to the number of attempts in the settings, again only after passing failures, and always sent to the
same address with the same time limit.  The reply to the last attempt decides: any response is
handed on, and a failure that comes from the request is told.  What is fetched is then the value of
the body, or a fault that tells of the failure, the status or the body, and that is so exactly for
the replies that are not unforeseen.  The fault of an unforeseen one is passed on as it comes. -/
theorem fetch_tells_unless_unforeseen (settings : ServiceSettings) (credentials : Headers)
    (platform : Platform) (path : RawText) (replies : List Reply) :
    let c := Service.connect settings credentials platform
    ∃ failures last got fetched,
      Tries (max 1 settings.attempts).toNat replies failures last ∧
      (c.get path).exchange replies =
        ⟨got, List.replicate (failures.length + 1) ⟨c.baseUrl ++ path, settings.timeout⟩,
          replies.drop (failures.length + 1)⟩ ∧
      (c.fetch path).exchange replies =
        ⟨fetched, List.replicate (failures.length + 1) ⟨c.baseUrl ++ path, settings.timeout⟩,
          replies.drop (failures.length + 1)⟩ ∧
      (c.Got path last got ↔
        ∀ failure, last = .failure failure → failure.kind.isRequest = true) ∧
      (c.Fetched path last fetched ↔ ∀ fault, ¬ last.Unforeseen platform.nestingLimit fault) ∧
      ∀ fault, last.Unforeseen platform.nestingLimit fault → fetched = .error fault ∧
        ∀ failure, last = .failure failure → got = .error fault := by
  intro c
  have hlimit : c.attemptLimit = (max 1 settings.attempts).toNat := by
    have hattempts : c.attempts = max 1 settings.attempts := rfl
    rw [attemptLimit, hattempts]
    omega
  obtain ⟨failures, last, htries⟩ := exists_tries c.attemptLimit_pos replies
  have hsend := htries.exchange_send (c.address path)
  rw [hlimit] at htries
  refine ⟨failures, last, c.responseOfAnswer path last.result, c.payloadOfAnswer path last.result,
    htries, ?_, ?_, got_iff, ?_, ?_⟩
  · rw [exchange_get, hsend]
    rfl
  · rw [exchange_fetch, hsend]
    rfl
  · constructor
    · intro hfetched fault hunforeseen
      rw [payloadOfAnswer_of_unforeseen hunforeseen] at hfetched
      exact not_fetched_of_unforeseen (c := c) hunforeseen hfetched
    · exact fetched_of_not_unforeseen (c := c)
  · intro fault hunforeseen
    refine ⟨payloadOfAnswer_of_unforeseen (c := c) hunforeseen, ?_⟩
    rintro failure rfl
    cases hunforeseen with
    | failure hkind => exact congrArg Except.error (faultOf_of_not_isRequest hkind _)

/-- A failure that does not come from the request leaves a fetch as it came. -/
theorem fetch_passes_on_runtime_failure :
    let c := Service.connect { baseUrl := "/v1" }
    let failure : NetworkFailure := ⟨.runtime, some "no route"⟩
    Tries 1 [.failure failure] [] (.failure failure) ∧
      ((c.get "/Things").exchange [.failure failure]).result = .error (.network failure) ∧
      ¬ c.Got "/Things" (.failure failure) (.error (.network failure)) ∧
      ((c.fetch "/Things").exchange [.failure failure]).result = .error (.network failure) ∧
      ¬ c.Fetched "/Things" (.failure failure) (.error (.network failure)) := by
  intro c failure
  have hunforeseen : (Reply.failure failure).Unforeseen c.platform.nestingLimit
      (.network failure) := .failure rfl
  exact ⟨.single Nat.one_pos fun _ _ _ => rfl, rfl, not_got_network, rfl,
    not_fetched_of_unforeseen hunforeseen⟩

end Service

end StationWatch
