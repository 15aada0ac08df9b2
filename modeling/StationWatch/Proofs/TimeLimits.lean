import StationWatch.Proofs.Exits

/-!
# Positive settings and time limits

Settings of a connection are given one by one, read from an environment, or completed from options.
Whichever way they come, they are refused or checked, so the address is not empty and interval and
attempts are at least one.  The time limit is above zero, unless it is no number: a check refuses
what is at most zero, and what is no number is neither at most zero nor above it.

A handler on such settings never has its interval refused by the scheduler, and every request
carries the time limit of the settings, also within the steps of other requests.

## Main definitions

* `BridgeSettings.Bounded`, `BridgeSettings.Positive`, `BridgeSettings.Limitless` — what is asked of
  settings.
* `BridgeSettings.Origin` — how settings come into being.
* `Dialogue.Asks` — every request of a dialogue satisfies a predicate.
* `Watch.Limited` — all requests of a handler carry one time limit.

## Main results

* `BridgeSettings.check_eq_ok_iff_positive_or_limitless` — what a check lets pass.
* `Cycle.program_asks` — the requests of a cycle.
* `Watch.kept_limited` — what everything keeps that can happen to a handler.
* `settings_positive_unless_nan` — settings in use.

## References

`SPEC_FULL.md`, section 10.3, on configuration.
-/

namespace StationWatch

/-! ### Above zero -/

namespace Doubles

open Float.Model UnpackedFloat

/-- A double is at most zero, above zero or no number. -/
theorem sign_cases (x : Float) :
    (x ≤ 0.0 ∧ ¬ 0.0 < x ∧ x.isNaN = false) ∨ (¬ x ≤ 0.0 ∧ 0.0 < x ∧ x.isNaN = false) ∨
      (¬ x ≤ 0.0 ∧ ¬ 0.0 < x ∧ x.isNaN = true) := by
  have hzero : (0.0 : Float).toModel.unpack = .zero .positive := rfl
  have hle : x ≤ 0.0 ↔ x.toModel.unpack.le (0.0 : Float).toModel.unpack = true := decide_eq_true_iff
  have hlt : 0.0 < x ↔ (0.0 : Float).toModel.unpack.lt x.toModel.unpack = true := decide_eq_true_iff
  have hnan : x.isNaN = x.toModel.unpack.isNaN := rfl
  rw [hle, hlt, hnan, hzero]
  generalize x.toModel.unpack = y
  have hfalse : ¬ false = true := Bool.false_ne_true
  rcases y with ⟨_ | _⟩ | _ | ⟨_ | _⟩ | ⟨_ | _, m, e, hm⟩
  case notANumber => exact .inr (.inr ⟨hfalse, hfalse, rfl⟩)
  case infinity.positive => exact .inr (.inl ⟨hfalse, rfl, rfl⟩)
  case finite.positive => exact .inr (.inl ⟨hfalse, rfl, rfl⟩)
  all_goals exact .inl ⟨rfl, hfalse, rfl⟩

theorem not_le_zero_iff (x : Float) : ¬ x ≤ 0.0 ↔ 0.0 < x ∨ x.isNaN = true := by
  rcases sign_cases x with ⟨hle, hlt, hnan⟩ | ⟨hle, hlt, -⟩ | ⟨hle, -, hnan⟩
  · refine iff_of_false (fun h => h hle) ?_
    rintro (h | h)
    · exact hlt h
    · exact Bool.false_ne_true (hnan.symm.trans h)
  · exact iff_of_true hle (.inl hlt)
  · exact iff_of_true hle (.inr hnan)

theorem isNaN_eq_false_of_zero_lt {x : Float} (h : 0.0 < x) : x.isNaN = false := by
  rcases sign_cases x with ⟨-, -, hnan⟩ | ⟨-, -, hnan⟩ | ⟨-, hlt, -⟩
  · exact hnan
  · exact hnan
  · exact absurd h hlt

end Doubles

/-! ### Checked settings -/

namespace BridgeSettings

/-- Settings with an address, whose whole numbers are at least one and whose time limit satisfies a
predicate. -/
structure Bounded (limit : Float → Prop) (s : BridgeSettings) : Prop where
  baseUrl : s.baseUrl ≠ ""
  refreshInterval : 1 ≤ s.refreshInterval
  timeout : limit s.timeout
  attempts : 1 ≤ s.attempts

/-- Settings all of whose numbers are above zero. -/
def Positive : BridgeSettings → Prop := Bounded (0.0 < ·)

/-- Settings whose time limit is no number, and which are in order otherwise. -/
def Limitless : BridgeSettings → Prop := Bounded (Float.isNaN · = true)

variable {s t : BridgeSettings}

theorem usable_iff : s.Usable ↔ s.Positive ∨ s.Limitless := by
  constructor
  · rintro ⟨hurl, hinterval, htimeout, hattempts⟩
    rcases (Doubles.not_le_zero_iff s.timeout).1 htimeout with hpos | hnan
    · exact .inl ⟨hurl, by omega, hpos, hattempts⟩
    · exact .inr ⟨hurl, by omega, hnan, hattempts⟩
  · rintro (⟨hurl, hinterval, htimeout, hattempts⟩ | ⟨hurl, hinterval, htimeout, hattempts⟩)
    · exact ⟨hurl, by omega, (Doubles.not_le_zero_iff s.timeout).2 (.inl htimeout), hattempts⟩
    · exact ⟨hurl, by omega, (Doubles.not_le_zero_iff s.timeout).2 (.inr htimeout), hattempts⟩

/-- Settings are positive or limitless, not both. -/
theorem Positive.not_limitless (h : s.Positive) : ¬ s.Limitless := by
  intro hlimitless
  have hnumber := Doubles.isNaN_eq_false_of_zero_lt h.timeout
  rw [hlimitless.timeout] at hnumber
  cases hnumber

/-- A check lets positive and limitless settings pass, unchanged, and no others. -/
theorem check_eq_ok_iff_positive_or_limitless :
    s.check = .ok t ↔ (s.Positive ∨ s.Limitless) ∧ t = s := by
  rw [check_eq_ok_iff, usable_iff]

/-- How settings of a connection come into being. -/
inductive Origin
  /-- They are given one by one. -/
  | given (fields : BridgeSettings)
  /-- They are read from an environment. -/
  | environment (env : Environment)
  /-- They are those in force for options and an environment. -/
  | options (o : Command.Options) (env : Environment)

/-- The settings of an origin, unless they are refused. -/
def Origin.settings : Origin → Except SettingsFault BridgeSettings
  | .given fields => fields.check
  | .environment env => load env
  | .options o env => Command.bridgeSettings o env

theorem Origin.usable {origin : Origin} (h : origin.settings = .ok s) : s.Usable := by
  cases origin with
  | given fields =>
    obtain ⟨husable, rfl⟩ := check_eq_ok_iff.1 h
    exact husable
  | environment env => exact usable_of_load h
  | options o env => exact Command.usable_of_bridgeSettings h

end BridgeSettings

/-! ### Requests of a dialogue -/

namespace Dialogue

variable {α β : Type} {P : Request → Prop} {d : Dialogue α} {f : α → Dialogue β}

/-- Every request of a dialogue, whatever the replies, satisfies a predicate. -/
def Asks (P : Request → Prop) : Dialogue α → Prop
  | .done _ => True
  | .act _ rest => Asks P rest
  | .ask request next => P request ∧ ∀ reply, Asks P (next reply)

theorem asks_pure (result : α) : (pure result : Dialogue α).Asks P := trivial

theorem asks_bind (h : d.Asks P) (hf : ∀ result, (f result).Asks P) : (d >>= f).Asks P := by
  change (bind d f).Asks P
  induction d with
  | done result => exact hf result
  | act effect rest ih => exact ih h
  | ask request next ih => exact ⟨h.1, fun reply => ih reply (h.2 reply)⟩

theorem asks_map {g : α → β} (h : d.Asks P) : (g <$> d).Asks P :=
  asks_bind h fun result => asks_pure (g result)

end Dialogue

open Dialogue

namespace Service

variable {P : Request → Prop}

/-- A request carries the time limit of its service. -/
def Bears (c : Service) (request : Request) : Prop := request.timeout = c.timeout

variable (c : Service) {passing : NetworkFailure → Bool}
  {call : Dialogue (Except NetworkFailure Response)}

theorem asks_tryOnce {again : NetworkFailure → Dialogue (Except NetworkFailure Response)}
    (h : call.Asks P) (hagain : ∀ failure, (again failure).Asks P) (n : Nat) :
    (RetryPolicy.tryOnce c.around passing call n again).Asks P := by
  refine asks_bind h fun result => ?_
  cases result with
  | ok response => exact asks_pure _
  | error failure =>
    dsimp only
    split
    · exact hagain failure
    · exact asks_pure _

/-- Attempts ask for nothing but what a single one asks for. -/
theorem asks_attempt {pauseAfter : Nat → Float} (h : call.Asks P) (left n : Nat) :
    (RetryPolicy.attempt c.around pauseAfter passing call left n).Asks P := by
  induction left generalizing n with
  | zero => exact c.asks_tryOnce h (fun _ => asks_pure _) n
  | succ left ih =>
    refine c.asks_tryOnce h (fun failure => ?_) n
    refine asks_bind (d := c.around.retry _ failure) trivial fun _ => ?_
    exact asks_bind (d := c.around.pause _) trivial fun _ => ih (n + 1)

theorem asks_fetch (path : RawText) : (c.fetch path).Asks c.Bears := by
  have hrequest : (Dialogue.request (c.requestFor (c.address path))).Asks c.Bears :=
    ⟨rfl, fun _ => trivial⟩
  have hsend : (c.send (c.address path)).Asks c.Bears := c.asks_attempt (asks_map hrequest) _ _
  have hget : (c.get path).Asks c.Bears := by
    refine asks_bind (d := Dialogue.log _ _ _) trivial fun _ => asks_bind hsend fun result => ?_
    cases result <;> exact asks_pure _
  refine asks_bind hget fun result => ?_
  cases result with
  | error fault => exact asks_pure _
  | ok response =>
    refine asks_bind ?_ fun _ => asks_pure _
    unfold noteResponse
    split
    · exact trivial
    · split <;> exact trivial

theorem asks_latest (path measurement : RawText) : (c.latest path measurement).Asks c.Bears := by
  refine asks_bind (c.asks_fetch path) fun result => ?_
  cases result with
  | error fault => exact asks_pure _
  | ok payload =>
    dsimp only
    split <;> exact trivial

theorem asks_stationsNear (p : ReferencePoint) (path : RawText) :
    (c.stationsNear p path).Asks c.Bears := by
  have hskipped (entries : List Json) : (noteSkipped entries).Asks c.Bears := by
    induction entries with
    | nil => exact trivial
    | cons entry rest ih => exact ih
  have hnearest (stations : List RankedStation) : (noteNearest stations).Asks c.Bears := by
    cases stations <;> exact trivial
  refine asks_bind (c.asks_fetch path) fun result => ?_
  cases result with
  | error fault => exact asks_pure _
  | ok payload =>
    refine asks_bind (hskipped _) fun _ => ?_
    split
    · exact asks_pure _
    · exact asks_bind (hnearest _) fun _ => asks_pure _

end Service

namespace Cycle

variable {service : Service} {registry : Registry} {settings : WeatherSettings}

theorem asks_readAll {station : RankedStation} (names : List RawText) (values : ChannelValues) :
    (readAll service registry settings station names values).Asks service.Bears := by
  induction names generalizing values with
  | nil => exact asks_pure _
  | cons name names ih =>
    rw [readAll]
    split
    · exact asks_pure _
    · rename_i m hm
      have hread : (read service settings name m station).Asks service.Bears := by
        unfold read
        split
        · split
          · exact asks_pure _
          · refine asks_bind (service.asks_latest _ _) fun result => ?_
            cases result <;> exact asks_pure _
        · exact asks_pure _
      refine asks_bind hread fun result => ?_
      split
      · split
        · exact ih _
        · exact asks_pure _
      · exact trivial
      · exact asks_pure _

/-- Every request of a cycle carries the time limit of its service. -/
theorem program_asks (p : ReferencePoint) :
    (program service registry settings p).Asks service.Bears := by
  have hfind : (findStation service p).Asks service.Bears := by
    refine asks_bind (service.asks_stationsNear p _) fun result => ?_
    cases result with
    | error fault => exact asks_pure _
    | ok stations =>
      dsimp only
      split <;> exact asks_pure _
  have hexecute : (execute service registry settings p).Asks service.Bears := by
    refine asks_bind (d := Dialogue.enter .resolving) trivial fun _ => ?_
    refine asks_bind hfind fun found => ?_
    split
    · exact trivial
    · exact asks_pure _
    · exact asks_bind (d := noteStation _ _) trivial fun _ => asks_readAll _ _
  refine asks_bind hexecute fun result => ?_
  cases result with
  | ok outcome => exact asks_pure _
  | error fault => exact trivial

end Cycle

/-! ### Handlers -/

/-- All requests of a handler carry one time limit: those that were sent, those that cycles in
flight will send, and those of the cycles to come. -/
structure Watch.Limited (seconds : Float) (w : Watch) (flights : List Flight) : Prop where
  /-- The service sets the limit. -/
  service : w.inner.service.timeout = seconds
  /-- Requests that were sent carry it. -/
  sent : ∀ request, .request request ∈ w.journal → request.timeout = seconds
  /-- Cycles in flight will send no other ones. -/
  pending : ∀ flight ∈ flights, flight.rest.Asks (·.timeout = seconds)

namespace Watch

variable {seconds : Float} {w w' : Watch} {flights : List Flight}

/-- Without another service and without new requests nothing changes. -/
theorem Limited.continued (h : Limited seconds w flights) (news : Journal)
    (hservice : w'.inner.service = w.inner.service) (hjournal : w'.journal = news ++ w.journal)
    (hnews : ∀ request, .request request ∉ news) : Limited seconds w' flights := by
  refine ⟨by rw [hservice, h.service], fun request hrequest => ?_, h.pending⟩
  rw [hjournal, List.mem_append] at hrequest
  rcases hrequest with hnew | hold
  · exact absurd hnew (hnews request)
  · exact h.sent request hold

theorem request_not_mem_of_quiet {news : Journal} (h : ∀ event ∈ news, event.isQuiet = true)
    (request : Request) : .request request ∉ news := by
  intro hmem
  cases h _ hmem

/-- A cycle asks as the service does. -/
theorem Limited.began (h : Limited seconds w flights) (number : Nat) (guarded : Bool)
    (lifetime : Lifetime) (hservice : w'.inner.service = w.inner.service)
    (hjournal : w'.journal = [.reached (.began number)] ++ w.journal) :
    Limited seconds w' (⟨number, guarded, w.programOf lifetime⟩ :: flights) := by
  have hbegun : Limited seconds w' flights := h.continued _ hservice hjournal (by simp)
  refine ⟨hbegun.service, hbegun.sent, List.forall_mem_cons.2 ⟨?_, h.pending⟩⟩
  rw [← h.service]
  exact Cycle.program_asks lifetime.reference

/-- What everything keeps that can happen to a handler. -/
theorem kept_limited (seconds : Float) : Kept (Limited seconds) where
  aside h haside hservice _ := by
    obtain ⟨news, hjournal, hquiet⟩ := haside.journal
    exact h.continued news hservice hjournal (request_not_mem_of_quiet hquiet)
  activate := by
    intro w flights h schedule
    rcases w.activate_cases schedule with
      ⟨fault, heq⟩ | ⟨p, news, refreshJob, hjournal, hquiet, hinner⟩
    · rw [heq]
      exact h.continued [_, _, _] rfl rfl (by simp)
    · have hbegun : Limited seconds (w.begun p) flights :=
        h.continued [_, _] rfl rfl (by simp)
      exact hbegun.continued news (by rw [hinner]) hjournal (request_not_mem_of_quiet hquiet)
  dispose := by
    intro w flights h
    obtain ⟨lines, entry, hjournal⟩ := w.logs_dispose
    refine h.continued (lines.map .logged ++ [.reached .disposed, .logged entry]) ?_ ?_ (by simp)
    · rw [inner_dispose]
      rfl
    · rw [hjournal]
      simp
  refresh := by
    intro w flights number lifetime h _ _ _ _
    exact h.began number true lifetime rfl rfl
  rerun := by
    intro w flights number lifetime h _
    exact h.began number false lifetime rfl rfl
  act := by
    intro w flights number guarded effect rest h
    obtain ⟨hrest, hflights⟩ := List.forall_mem_cons.1 h.pending
    have hmoved : Limited seconds w (⟨number, guarded, rest⟩ :: flights) :=
      ⟨h.service, h.sent, List.forall_mem_cons.2 ⟨hrest, hflights⟩⟩
    cases effect with
    | enter phase => exact hmoved.continued [] rfl rfl (by simp)
    | _ => exact hmoved.continued [_] rfl rfl (by simp)
  ask := by
    intro w flights number guarded request next h reply
    obtain ⟨⟨hrequest, hnext⟩, hflights⟩ := List.forall_mem_cons.1 h.pending
    refine ⟨h.service, fun other hother => ?_,
      List.forall_mem_cons.2 ⟨hnext reply, hflights⟩⟩
    rcases List.mem_cons.1 hother with hnew | hold
    · cases hnew
      exact hrequest
    · exact h.sent other hold
  conclude := by
    intro w flights number guarded outcome h
    have hlanded : Limited seconds w flights :=
      ⟨h.service, h.sent, (List.forall_mem_cons.1 h.pending).2⟩
    obtain ⟨fault, ending, told, -, heq⟩ := w.exists_concludes number outcome
    rw [release_eq, heq]
    exact hlanded.continued (.reached ending :: told.reverse.map Event.announced) rfl rfl (by simp)

theorem limited_start (bridge : Bridge) (settings : WeatherSettings) (registry : Registry)
    (sink : Sink) (script : List ScriptedReply) : Limited bridge.service.timeout
      (Timed.start { Handler.create bridge settings registry sink with script }) [] :=
  ⟨rfl, by simp [Timed.start], by simp⟩

theorem Limited.requests (h : Limited seconds w flights) :
    ∀ request ∈ w.journal.requests, request.timeout = seconds := by
  intro request hrequest
  obtain ⟨event, hevent, heq⟩ := List.mem_filterMap.1 hrequest
  cases event <;> cases heq
  exact h.sent request (List.mem_reverse.1 hevent)

end Watch

/-! ### Runs of the command line -/

namespace Command

section

variable {P : Watch → List Flight → Prop} {w : Watch}

theorem kept_runOnce (hP : Kept P) (h : P w []) : P (runOnce w).2 [] := by
  have hactivated := hP.activate h false
  unfold runOnce
  split
  · rename_i outcome started heq
    rw [heq] at hactivated
    exact hP.note hactivated rfl
  · rename_i started heq
    rw [heq] at hactivated
    have hrefreshed := hP.refreshed (hP.performWithin 0) hactivated
    exact hP.note (hP.dispose hrefreshed) rfl

theorem kept_awaitJob (hP : Kept P) (h : P w []) (waits : Nat) : P (awaitJob waits w) [] := by
  unfold awaitJob
  split
  · exact h
  · split
    · exact h
    · exact hP.runJob (hP.performWithin 1) _ _ _ h

theorem kept_runJob (hP : Kept P) (h : P w []) (waits : Nat) (leave : Leave) :
    P (runJob waits leave w).2 [] := by
  have hactivated := hP.activate h true
  unfold runJob
  split
  · rename_i outcome started heq
    rw [heq] at hactivated
    exact hP.note hactivated rfl
  · rename_i started heq
    rw [heq] at hactivated
    have hawaited := kept_awaitJob hP hactivated waits
    dsimp only
    split
    · exact hawaited
    · exact hP.shutDown leave.isInterrupted hawaited

/-- What everything keeps holds at the end of a run, if it held when the handler was made. -/
theorem kept_runWith (hP : Kept P) {o : Options} {s : Surroundings} {bridge : Bridge}
    {weather : WeatherSettings} (h : ∀ leave, P (opened s bridge weather leave) []) :
    P (runWith o s bridge weather).2 [] := by
  rw [runWith_eq]
  split
  · exact kept_runOnce hP (h _)
  · exact kept_runJob hP (h _) s.waits s.leave

end

/-- The requests of a run carry the time limit of its connection. -/
theorem limited_runWith (o : Options) (s : Surroundings) (bridge : Bridge)
    (weather : WeatherSettings) :
    Watch.Limited bridge.service.timeout (runWith o s bridge weather).2 [] :=
  kept_runWith (Watch.kept_limited bridge.service.timeout) fun leave =>
    Watch.limited_start bridge weather s.registry .steady (leave.script s.replies)

theorem requests_runIn {o : Options} {env : Environment} {bridge : BridgeSettings}
    {weather : WeatherSettings} (h : allSettings o env = .ok (bridge, weather))
    {s : Surroundings} {result : Result} (hrun : runIn o s env = .ok result) :
    ∀ request ∈ result.journal.requests, request.timeout = bridge.timeout := by
  rcases runIn_eq_ok_iff.1 hrun with
    ⟨fault, hfault, -⟩ | ⟨settings, watched, connection, hok, hmade, rfl⟩
  · cases h.symm.trans hfault
  · cases h.symm.trans hok
    obtain ⟨credentials, -, rfl⟩ := BridgeSettings.bridge_eq_ok_iff.1 hmade
    exact (limited_runWith o s _ weather).requests

end Command

/-! ### Settings in use -/

open BridgeSettings

/-- **Settings in use are positive, unless their time limit is no number.**  Whichever way settings
of a connection come into being, they are refused, or they have an address, interval and attempts
are at least one, and the time limit is above zero or no number; and exactly such settings are
accepted when they are given.  At every later moment of a handler on them the scheduler accepts its
interval, and every request of it carries the time limit, also within the steps of other requests;
so does every request of a run of the command line. -/
theorem settings_positive_unless_nan (origin : Origin) :
    ((∃ fault, origin.settings = .error fault) ∨
      ∃ s, origin.settings = .ok s ∧ (s.Positive ∨ s.Limitless)) ∧
    (∀ fields t, origin = .given fields →
      (origin.settings = .ok t ↔ (fields.Positive ∨ fields.Limitless) ∧ t = fields)) ∧
    ∀ s, origin.settings = .ok s →
      (s.Limitless → ¬ s.Positive) ∧
      (∀ platform bridge, s.bridge platform = .ok bridge → ∀ weather registry sink,
        let start : Watch := Timed.start (.create bridge weather registry sink)
        (∀ w, start.Onward w → ∃ table number,
          w.table.schedule 0.0 (Decimal.ofInt w.inner.refreshInterval) = .ok (table, number)) ∧
        ∀ list, start.Onward (Watch.steps list start).2 ∧
          ∀ request ∈ (Watch.steps list start).2.journal.requests, request.timeout = s.timeout) ∧
      ∀ o env weather, origin = .options o env → Command.allSettings o env = .ok (s, weather) →
        ∀ surroundings result, Command.runIn o surroundings env = .ok result →
          ∀ request ∈ result.journal.requests, request.timeout = s.timeout := by
  refine ⟨?_, ?_, ?_⟩
  · cases hsettings : origin.settings with
    | error fault => exact .inl ⟨fault, rfl⟩
    | ok s => exact .inr ⟨s, rfl, usable_iff.1 (Origin.usable hsettings)⟩
  · rintro fields t rfl
    exact check_eq_ok_iff_positive_or_limitless
  · intro s hsettings
    refine ⟨fun hlimitless hpositive => hpositive.not_limitless hlimitless, ?_, ?_⟩
    · intro platform bridge hbridge weather registry sink start
      obtain ⟨credentials, -, rfl⟩ := bridge_eq_ok_iff.1 hbridge
      refine ⟨fun w honward => ?_, fun list => ⟨Watch.onward_steps list start, ?_⟩⟩
      · have hpositive : 0 < w.inner.refreshInterval := by
          rw [honward.refreshInterval]
          exact (Origin.usable hsettings).refreshInterval
        exact ⟨_, _, w.table.schedule_eq 0.0 (Doubles.not_ofInt_le_zero hpositive)⟩
      · have hstart := Watch.limited_start
          ⟨.connect s.client credentials platform, s.refreshInterval⟩ weather registry sink []
        exact ((Watch.kept_limited s.timeout).steps list hstart).requests
    · rintro o env weather rfl hall surroundings result hrun
      exact Command.requests_runIn hall hrun

/-- An environment that gives an interval, and leaves everything else of the connection as usual. -/
def hourly : Environment :=
  [(settingStem ++ "BASE_URL", "/v1"), (settingStem ++ "REFRESH_INTERVAL", " 3_600 ")]

/-- Its settings are accepted, and so is the interval, also after an activation with a job. -/
theorem hourly_interval_accepted : ∃ s bridge, (Origin.environment hourly).settings = .ok s ∧
    s.refreshInterval = 3600 ∧ s.bridge = .ok bridge ∧
    let start : Watch := Timed.start (.create bridge { location := "51.2,7.1" } .builtIn)
    let w := (Watch.steps [.activate true, .refresh] start).2
    (∃ table number,
      w.table.schedule 0.0 (Decimal.ofInt w.inner.refreshInterval) = .ok (table, number)) ∧
    w.journal.requests.length = 1 ∧ ∀ request ∈ w.journal.requests, request.timeout = 10.0 := by
  have hsettings : (Origin.environment hourly).settings =
      .ok { baseUrl := "/v1", refreshInterval := 3600 } := rfl
  obtain ⟨-, hlater, -⟩ := (settings_positive_unless_nan (.environment hourly)).2.2 _ hsettings
  obtain ⟨haccepted, hsteps⟩ := hlater {} _ rfl { location := "51.2,7.1" } .builtIn .steady
  obtain ⟨honward, hrequests⟩ := hsteps [.activate true, .refresh]
  exact ⟨_, _, hsettings, rfl, rfl, haccepted _ honward, by decide +kernel, hrequests⟩

/-- A time limit that is no number is refused neither among given settings nor in an environment nor
as an option, and then every request of the run carries it. -/
theorem nan_time_limit_in_use :
    (∃ s, (Origin.given { baseUrl := "/v1", timeout := 0.0 / 0.0 }).settings = .ok s ∧
      ¬ s.Positive) ∧
    (∃ s, (Origin.environment
        [(settingStem ++ "BASE_URL", "/v1"), (settingStem ++ "TIMEOUT", "nan")]).settings = .ok s ∧
      ¬ s.Positive) ∧
    ∃ o, Command.Options.parse ["--base-url", "/v1", "--timeout", "nan", "--location",
        "51.2,7.1", "--once"] = .ok o ∧
      (∃ s, (Origin.options o []).settings = .ok s ∧ ¬ s.Positive) ∧
      (Command.runIn o {} []).toOption.map (fun result =>
        result.journal.requests.map fun request => decide (0.0 < request.timeout)) =
          some [false] := by
  have hlimit {s : BridgeSettings} (h : s.timeout.isNaN = true) : ¬ s.Positive := by
    intro hpositive
    have hnumber := Doubles.isNaN_eq_false_of_zero_lt hpositive.timeout
    rw [h] at hnumber
    cases hnumber
  refine ⟨⟨_, rfl, hlimit rfl⟩, ⟨_, rfl, hlimit rfl⟩, ⟨_, rfl, ⟨_, rfl, hlimit rfl⟩, ?_⟩⟩
  decide +kernel

end StationWatch
