import StationWatch.Proofs.Exits

/-!
# The password is not told

A password goes into one header of the requests and nowhere else.  Everything that a run does takes
no notice of its headers: with other ones it does the same and keeps those.  So two runs that differ
only in the password differ only in that header, and the settings of a run are accepted or refused
whatever the password is.  Only a password that has no bytes, for a user who is to be named, makes a
difference: with it there is no header, and the run breaks off before it does anything.

## Main definitions

* `Unnoticed` — a change of the state that a computation takes no notice of.
* `Watch.withHeaders` — the same moment with other headers.
* `Handler.Discreet` — a handler whose network shows its headers to nobody.
* `Watch.Heedless` — steps within requests that take no notice of the headers.
* `SameBesidesPassword` — environments that differ only in the password.
* `SameHeaders` — headers that differ only in the value that carries the credentials.
* `Command.Surroundings.Alike` — what two runs find that differ only in the password.

## Main results

* `Dialogue.run_unnoticed` — a run of a dialogue, if requests and effects take no notice.
* `Cycle.program_withHeaders` — what a cycle does.
* `Watch.refresh_withHeaders`, `Watch.runJob_withHeaders` — what a handler does.
* `SameBesidesPassword.allSettings` — the settings of a run.
* `Command.run_hides_password` — what a run does and tells.

## References

`SPEC_FULL.md`, sections 6 and 10.1, on settings and on logging.
-/

namespace StationWatch

/-! ### Changes that go unnoticed -/

/-- A change of the state that a computation takes no notice of, in states among which it stays. -/
def Unnoticed {α σ : Type} (P : σ → Prop) (g : σ → σ) (run : σ → α × σ) : Prop :=
  ∀ s, P s → run (g s) = Prod.map id g (run s) ∧ P (run s).2

/-- What requests and effects take no notice of, a dialogue does not. -/
theorem Dialogue.run_unnoticed {α σ : Type} {P : σ → Prop} {g : σ → σ}
    {reply : Request → σ → Reply × σ} {act : Effect → σ → σ}
    (hreply : ∀ request, Unnoticed P g (reply request))
    (hact : ∀ effect s, P s → act effect (g s) = g (act effect s) ∧ P (act effect s))
    (d : Dialogue α) : Unnoticed P g (d.run reply act) := by
  induction d with
  | done result => exact fun s h => ⟨rfl, h⟩
  | act effect rest ih =>
    intro s h
    obtain ⟨heq, hafter⟩ := hact effect s h
    rw [run_act, run_act, heq]
    exact ih _ hafter
  | ask request next ih =>
    intro s h
    obtain ⟨heq, hafter⟩ := hreply request s h
    rw [run_ask, run_ask, heq]
    exact ih _ _ hafter

/-! ### Cycles -/

/-- The same service with other headers. -/
def Service.withHeaders (c : Service) (headers : Headers) : Service := { c with headers }

namespace Cycle

variable (service : Service) (headers : Headers)

theorem readAll_withHeaders (registry : Registry) (settings : WeatherSettings)
    (station : RankedStation) (names : List RawText) (values : ChannelValues) :
    readAll (service.withHeaders headers) registry settings station names values =
      readAll service registry settings station names values := by
  induction names generalizing values with
  | nil => rfl
  | cons name names ih =>
    simp only [readAll, ih]
    rfl

/-- What a cycle asks and does has nothing to do with the headers. -/
theorem program_withHeaders (registry : Registry) (settings : WeatherSettings)
    (p : ReferencePoint) : program (service.withHeaders headers) registry settings p =
      program service registry settings p := by
  simp only [program, execute, readAll_withHeaders]
  rfl

end Cycle

/-! ### Jobs -/

namespace Timed

variable {σ : Type} {P : σ → Prop} {f : σ → σ} {callback : Timed σ → Timed σ}

theorem wait_update (w : Timed σ) (number : Nat) (seconds : Float) :
    (w.update f).wait number seconds = Prod.map id (·.update f) (w.wait number seconds) := rfl

/-- A change beside the jobs that the callback takes no notice of. -/
theorem rounds_update
    (hcallback : ∀ w, P w.inner →
      callback (w.update f) = (callback w).update f ∧ P (callback w).inner)
    (number : Nat) (period : Float) (limit : Nat) {w : Timed σ} (h : P w.inner) :
    rounds callback number period limit (w.update f) =
      (rounds callback number period limit w).update f := by
  induction limit generalizing w with
  | zero => rfl
  | succ limit ih =>
    obtain ⟨heq, hcalled⟩ := hcallback w h
    let counted := (callback w).retime (·.countRun number)
    have hround : ((callback (w.update f)).retime (·.countRun number)).wait number period =
        Prod.map id (·.update f) (counted.wait number period) := by
      rw [heq]
      exact wait_update counted number period
    unfold rounds
    rw [hround]
    change (if w.table.isCancelled number = true then _ else _) = _
    dsimp only [Prod.map]
    split
    · rfl
    · dsimp only [id]
      split
      · rfl
      · exact ih hcalled

theorem body_update
    (hcallback : ∀ w, P w.inner →
      callback (w.update f) = (callback w).update f ∧ P (callback w).inner)
    (number : Nat) (job : Job) (limit : Nat) {w : Timed σ} (h : P w.inner) :
    body callback number job limit (w.update f) = (body callback number job limit w).update f := by
  let waited := ({ w with running := some number } : Timed σ).wait number job.initialDelay
  have hrounds := @rounds_update σ P f callback hcallback number job.period limit waited.2 h
  change ({ (if waited.1 then waited.2.update f
    else rounds callback number job.period limit (waited.2.update f)) with
      running := w.running } : Timed σ) = _
  rw [hrounds, ← apply_ite (Timed.update · f)]
  rfl

theorem join_update
    (hcallback : ∀ w, P w.inner →
      callback (w.update f) = (callback w).update f ∧ P (callback w).inner)
    (number limit : Nat) (patience : Option Float) {w : Timed σ} (h : P w.inner) :
    join callback number limit patience (w.update f) =
      (join callback number limit patience w).update f := by
  have htable : (w.update f).table = w.table := rfl
  have hrunning : (w.update f).running = w.running := rfl
  unfold join
  rw [htable, hrunning]
  cases w.table.jobs[number]? with
  | none => rfl
  | some job =>
    dsimp only
    split
    · have hbody := @body_update σ P f callback hcallback number job limit
        (w.note (.join patience)) h
      exact congrArg (fun after => after.retime (·.finish number)) hbody
    · rfl

end Timed

/-! ### A handler -/

/-- Whether a step within a request is one with which a run is left. -/
def Step.isLeaving : Step → Bool
  | .cancelJob => true
  | .shutDown _ => true
  | _ => false

/-- The same handler with other headers. -/
def Handler.withHeaders (headers : Headers) (h : Handler) : Handler :=
  { h with service := h.service.withHeaders headers }

/-- A handler within whose requests nothing takes place but that a run is left.  No such step shows
the headers. -/
def Handler.Discreet (h : Handler) : Prop :=
  ∀ scripted ∈ h.script, ∀ step ∈ scripted.during, step.isLeaving = true

theorem Handler.Discreet.of_script {h h' : Handler} (hdiscreet : h.Discreet)
    (hscript : h'.script = h.script) : h'.Discreet := by
  unfold Discreet
  rwa [hscript]

namespace Watch

/-- The same moment with other headers. -/
def withHeaders (headers : Headers) (w : Watch) : Watch := w.update (·.withHeaders headers)

variable {headers : Headers}

@[simp] theorem table_withHeaders (w : Watch) : (w.withHeaders headers).table = w.table := rfl

@[simp] theorem refreshJob_withHeaders (w : Watch) :
    (w.withHeaders headers).inner.refreshJob = w.inner.refreshJob := rfl

/-! ### Activations and disposals -/

theorem startJob_withHeaders (w : Watch) :
    startJob (w.withHeaders headers) = (startJob w).withHeaders headers := by
  have hinterval : (w.withHeaders headers).inner.refreshInterval = w.inner.refreshInterval := rfl
  unfold startJob
  rw [refreshJob_withHeaders, table_withHeaders]
  split
  · dsimp only [Timed.log, Timed.note]
    rw [table_withHeaders, hinterval]
    cases w.table.schedule 0.0 (Decimal.ofInt w.inner.refreshInterval) <;> rfl
  · rfl

/-- An activation takes no notice of the headers. -/
theorem activate_withHeaders (schedule : Bool) :
    Unnoticed (·.inner.Discreet) (withHeaders headers) (activate schedule) := by
  intro w h
  cases hparse : ReferencePoint.parse w.inner.settings.location with
  | error fault =>
    rw [activate_of_error hparse]
    exact ⟨@activate_of_error (w.withHeaders headers) _ hparse schedule, h⟩
  | ok p =>
    rw [activate_of_ok hparse, @activate_of_ok (w.withHeaders headers) _ hparse]
    cases schedule with
    | false => exact ⟨rfl, h⟩
    | true =>
      obtain ⟨refreshJob, hinner⟩ := inner_startJob (w.begun p)
      refine ⟨congrArg (Prod.mk none) (startJob_withHeaders (w.begun p)), ?_⟩
      change (startJob (w.begun p)).inner.Discreet
      rw [hinner]
      exact h

theorem stopJob_withHeaders (w : Watch) :
    stopJob (w.withHeaders headers) = (stopJob w).withHeaders headers := by
  unfold stopJob
  rw [refreshJob_withHeaders, table_withHeaders]
  cases w.inner.refreshJob with
  | none => rfl
  | some number =>
    dsimp only
    split <;> rfl

theorem dispose_withHeaders (w : Watch) :
    dispose (w.withHeaders headers) = (dispose w).withHeaders headers :=
  congrArg (fun w : Watch => w.update ({ · with cycle := none }))
    (stopJob_withHeaders (((w.log .debug .handler "Dispose weather handler.").update
      Handler.endLifetime).note (.reached .disposed)))

theorem shutDown_withHeaders (interrupted : Bool) (w : Watch) :
    shutDown interrupted (w.withHeaders headers) =
      (shutDown interrupted w).withHeaders headers := by
  cases interrupted with
  | false => exact congrArg (·.note .closed) (dispose_withHeaders w)
  | true =>
    exact congrArg (·.note .closed)
      (dispose_withHeaders (w.log .info .command "Interrupted, shutting down"))

/-! ### Steps within requests -/

/-- Steps within requests that take no notice of the headers, and leave the replies to come. -/
def Heedless (headers : Headers) (nested : Nested) : Prop :=
  ∀ step : Step, step.isLeaving = true → ∀ w : Watch,
    nested step (w.withHeaders headers) = Prod.map id (withHeaders headers) (nested step w) ∧
      (nested step w).2.inner.script = w.inner.script

theorem script_shutDown (interrupted : Bool) (w : Watch) :
    (shutDown interrupted w).inner.script = w.inner.script := by
  cases interrupted with
  | false =>
    change (dispose w).inner.script = _
    rw [inner_dispose]
    rfl
  | true =>
    change (dispose (w.log .info .command "Interrupted, shutting down")).inner.script = _
    rw [inner_dispose]
    rfl

/-- The steps with which a run is left, to whatever depth. -/
theorem heedless_performWithin (depth : Nat) : Heedless headers (performWithin depth) := by
  intro step hleaving w
  cases depth with
  | zero => exact ⟨rfl, rfl⟩
  | succ depth =>
    cases step
    case cancelJob =>
      change perform _ _ _ = Prod.map _ _ (perform _ _ _) ∧ (perform _ _ _).2.inner.script = _
      unfold perform yield
      rw [refreshJob_withHeaders, table_withHeaders]
      cases w.inner.refreshJob <;> exact ⟨rfl, rfl⟩
    case shutDown interrupted =>
      refine ⟨?_, script_shutDown interrupted w⟩
      change (report (shutDown interrupted (w.withHeaders headers)) _ _,
        shutDown interrupted (w.withHeaders headers)) = _
      rw [shutDown_withHeaders]
      rfl
    all_goals cases hleaving

variable {nested : Nested}

theorem runNested_withHeaders (hnested : Heedless headers nested) {list : List Step}
    (hlist : ∀ step ∈ list, step.isLeaving = true) (w : Watch) :
    runNested nested list (w.withHeaders headers) =
        (runNested nested list w).withHeaders headers ∧
      (runNested nested list w).inner.script = w.inner.script := by
  induction list generalizing w with
  | nil => exact ⟨rfl, rfl⟩
  | cons step rest ih =>
    obtain ⟨hleaving, hrest⟩ := List.forall_mem_cons.1 hlist
    obtain ⟨hstep, hscript⟩ := hnested step hleaving w
    let told := nested step w
    obtain ⟨hran, hleft⟩ := ih hrest (told.2.note (.stepped told.1))
    constructor
    · refine Eq.trans ?_ hran
      rw [runNested, hstep]
      rfl
    · exact hleft.trans hscript

theorem reply_withHeaders (hnested : Heedless headers nested) (request : Request) :
    Unnoticed (·.inner.Discreet) (withHeaders headers) (reply nested request) := by
  intro w h
  cases hscript : w.inner.script with
  | nil =>
    have hsame : (w.withHeaders headers).inner.script = [] := hscript
    simp only [reply, Timed.note, hscript, hsame]
    exact ⟨rfl, h⟩
  | cons next rest =>
    have hsame : (w.withHeaders headers).inner.script = next :: rest := hscript
    unfold Handler.Discreet at h
    rw [hscript] at h
    obtain ⟨hnext, hrest⟩ := List.forall_mem_cons.1 h
    let asked : Watch := (w.note (.request request)).update ({ · with script := rest })
    have hasked : asked.inner.Discreet := hrest
    obtain ⟨hran, hleft⟩ := runNested_withHeaders hnested hnext asked
    simp only [reply, Timed.note, hscript, hsame]
    exact ⟨congrArg (Prod.mk next.reply) hran, hasked.of_script hleft⟩

theorem act_withHeaders (number : Nat) (effect : Effect) (w : Watch) (h : w.inner.Discreet) :
    act number effect (w.withHeaders headers) = (act number effect w).withHeaders headers ∧
      (act number effect w).inner.Discreet := by
  cases effect <;> exact ⟨rfl, h⟩

/-! ### Cycles of a handler -/

theorem publish_withHeaders (number : Nat) (a : Announcement) (w : Watch) :
    publish number a (w.withHeaders headers) =
      Prod.map id (withHeaders headers) (publish number a w) := by
  unfold publish
  change (if w.inner.isOpen number then _ else _) = _
  split <;> rfl

theorem publishAll_withHeaders (number : Nat) (announcements : List Announcement) (w : Watch) :
    publishAll number announcements (w.withHeaders headers) =
      Prod.map id (withHeaders headers) (publishAll number announcements w) := by
  induction announcements generalizing w with
  | nil => rfl
  | cons a rest ih =>
    unfold publishAll
    rw [publish_withHeaders]
    rcases publish number a w with ⟨_ | fault, told⟩
    · dsimp only [Prod.map, id]
      rw [ih]
      rfl
    · rfl

theorem conclude_withHeaders (number : Nat) (outcome : Outcome) (w : Watch) :
    conclude number outcome (w.withHeaders headers) =
      Prod.map id (withHeaders headers) (conclude number outcome w) := by
  have hentered : (w.withHeaders headers).update (·.enter number outcome.phase) =
      withHeaders headers (w.update (·.enter number outcome.phase)) := rfl
  unfold conclude
  rw [hentered, publishAll_withHeaders]
  rcases publishAll number outcome.announcements (w.update (·.enter number outcome.phase)) with
    ⟨_ | ⟨fault, told⟩, ended⟩ <;> rfl

theorem runCycle_withHeaders (hnested : Heedless headers nested) (number : Nat) :
    Unnoticed (·.inner.Discreet) (withHeaders headers) (runCycle nested number) := by
  intro w h
  cases hlifetime : w.inner.lifetimes[number]? with
  | none =>
    have hsame : (w.withHeaders headers).inner.lifetimes[number]? = none := hlifetime
    rw [runCycle_of_none nested hlifetime, runCycle_of_none nested hsame]
    exact ⟨rfl, h⟩
  | some lifetime =>
    have hsame : (w.withHeaders headers).inner.lifetimes[number]? = some lifetime := hlifetime
    have hprogram : programOf (w.withHeaders headers) lifetime = programOf w lifetime :=
      Cycle.program_withHeaders _ _ _ _ _
    have hbegan : (w.withHeaders headers).note (.reached (.began number)) =
      withHeaders headers (w.note (.reached (.began number))) := rfl
    obtain ⟨hran, hdiscreet⟩ := Dialogue.run_unnoticed (reply_withHeaders hnested)
      (act_withHeaders number) (programOf w lifetime) (w.note (.reached (.began number))) h
    rw [runCycle_eq nested hsame, runCycle_eq nested hlifetime, hprogram, hbegan, hran]
    generalize (programOf w lifetime).run (reply nested) (act number)
      (w.note (.reached (.began number))) = ran at hdiscreet
    dsimp only [Prod.map, id]
    rw [conclude_withHeaders, inner_conclude]
    exact ⟨rfl, hdiscreet⟩

/-- A refresh takes no notice of the headers. -/
theorem refresh_withHeaders (hnested : Heedless headers nested) :
    Unnoticed (·.inner.Discreet) (withHeaders headers) (refresh nested) := by
  intro w h
  have hcycle : (w.withHeaders headers).inner.cycle = w.inner.cycle := rfl
  have hactive : (w.withHeaders headers).inner.isActive = w.inner.isActive := rfl
  have hrunning : (w.withHeaders headers).inner.isRunning = w.inner.isRunning := rfl
  have hguarded : (w.withHeaders headers).update ({ · with isRunning := true }) =
      withHeaders headers (w.update ({ · with isRunning := true })) := rfl
  unfold refresh
  rw [hcycle, hactive, hrunning, hguarded]
  cases w.inner.cycle with
  | none => exact ⟨rfl, h⟩
  | some number =>
    obtain ⟨hran, hdiscreet⟩ := runCycle_withHeaders hnested number
      (w.update ({ · with isRunning := true })) h
    dsimp only
    rw [hran]
    split
    · exact ⟨rfl, h⟩
    · split
      · exact ⟨rfl, h⟩
      · exact ⟨rfl, hdiscreet⟩

/-- A job with all its runs takes no notice of them either. -/
theorem runJob_withHeaders (hnested : Heedless headers nested) (number waits : Nat)
    (patience : Option Float) {w : Watch} (h : w.inner.Discreet) :
    runJob nested number waits patience (w.withHeaders headers) =
      (runJob nested number waits patience w).withHeaders headers := by
  have hlimit : roundLimit (w.withHeaders headers) waits = roundLimit w waits := rfl
  have hcallback (w : Watch) (h : w.inner.Discreet) :
      Timed.guarded (callback nested) (w.withHeaders headers) =
          withHeaders headers (Timed.guarded (callback nested) w) ∧
        (Timed.guarded (callback nested) w).inner.Discreet := by
    obtain ⟨hran, hdiscreet⟩ := refresh_withHeaders hnested w h
    unfold Timed.guarded callback
    rw [hran]
    generalize refresh nested w = ran at hdiscreet
    rcases ran with ⟨fault | outcome, after⟩ <;> exact ⟨rfl, hdiscreet⟩
  unfold runJob
  rw [hlimit]
  exact @Timed.join_update _ Handler.Discreet (Handler.withHeaders headers) _ hcallback number
    (roundLimit w waits) patience (w.retime (·.grant number waits)) h

end Watch

/-! ### Settings -/

/-- Steps in a row that differ only in what a view of their results leaves out. -/
theorem Except.map_bind_congr {ε α β γ : Type} {x : Except ε α} {f f' : α → Except ε β} {g : β → γ}
    (h : ∀ a, (f' a).map g = (f a).map g) : (x >>= f').map g = (x >>= f).map g := by
  cases x with
  | error fault => rfl
  | ok a => exact h a

/-- Both fail for the same reason, or what they yield looks the same. -/
theorem Except.map_eq_map {ε α β : Type} {x x' : Except ε α} {g : α → β}
    (h : x'.map g = x.map g) : (∃ fault, x = .error fault ∧ x' = .error fault) ∨
      ∃ a a', x = .ok a ∧ x' = .ok a' ∧ g a' = g a := by
  cases x with
  | error fault =>
    cases x' with
    | error fault' =>
      cases h
      exact .inl ⟨fault, rfl, rfl⟩
    | ok a' => cases h
  | ok a =>
    cases x' with
    | error fault' => cases h
    | ok a' => exact .inr ⟨a, a', rfl, rfl, Except.ok.inj h⟩

/-- Settings without the password. -/
def BridgeSettings.disclosed (s : BridgeSettings) : BridgeSettings := { s with password := none }

/-- Whether settings are usable does not depend on the password. -/
theorem BridgeSettings.check_congr {s s' : BridgeSettings} (h : s'.disclosed = s.disclosed) :
    s'.check.map disclosed = s.check.map disclosed := by
  have hcheck (s : BridgeSettings) : s.check.map disclosed = s.disclosed.check := by
    simp only [check, apply_ite (Except.map disclosed)]
    rfl
  rw [hcheck, hcheck, h]

/-- Settings that differ only in the password. -/
theorem BridgeSettings.eq_of_disclosed {s s' : BridgeSettings} (h : s'.disclosed = s.disclosed) :
    s' = { s with password := s'.password } :=
  congrArg (fun shown : BridgeSettings => { shown with password := s'.password }) h

/-- A reader of the settings is not shown the password. -/
theorem BridgeSettings.shown_of_disclosed {s s' : BridgeSettings}
    (h : s'.disclosed = s.disclosed) : s'.shown = s.shown := by
  rw [eq_of_disclosed h]
  rfl

/-- Headers of the same names in the same order, with the same values but for one name. -/
def SameHeaders (headers headers' : Headers) : Prop :=
  List.Forall₂ (fun h h' => h'.1 = h.1 ∧ (h.1 ≠ "Authorization" → h'.2 = h.2)) headers headers'

theorem sameHeaders_authHeaders {username password password' : Option RawText}
    {headers headers' : Headers} (h : authHeaders username password = .ok headers)
    (h' : authHeaders username password' = .ok headers') : SameHeaders headers headers' := by
  unfold authHeaders at h h'
  cases username with
  | none =>
    cases h
    cases h'
    exact .nil
  | some name =>
    by_cases hname : name.isEmpty = true
    · simp only [hname, if_true] at h h'
      cases h
      cases h'
      exact .nil
    · simp only [hname, Bool.false_eq_true, if_false] at h h'
      cases hheader : basicAuth name (password.getD "") with
      | error fault =>
        rw [hheader] at h
        cases h
      | ok header =>
        cases hheader' : basicAuth name (password'.getD "") with
        | error fault =>
          rw [hheader'] at h'
          cases h'
        | ok header' =>
          rw [hheader] at h
          rw [hheader'] at h'
          cases h
          cases h'
          exact .cons ⟨rfl, fun hother => absurd rfl hother⟩ .nil

/-- The same connection with other headers. -/
def Bridge.withHeaders (bridge : Bridge) (headers : Headers) : Bridge :=
  { bridge with service := bridge.service.withHeaders headers }

/-- The connections of such settings differ only in their headers. -/
theorem BridgeSettings.bridge_of_disclosed {s s' : BridgeSettings} {platform : Platform}
    {bridge bridge' : Bridge} (h : s'.disclosed = s.disclosed)
    (hbridge : s.bridge platform = .ok bridge) (hbridge' : s'.bridge platform = .ok bridge') :
    bridge' = bridge.withHeaders bridge'.service.headers ∧
      SameHeaders bridge.service.headers bridge'.service.headers := by
  rw [eq_of_disclosed h] at hbridge'
  obtain ⟨credentials, hcredentials, rfl⟩ := bridge_eq_ok_iff.1 hbridge
  obtain ⟨credentials', hcredentials', rfl⟩ := bridge_eq_ok_iff.1 hbridge'
  have hauth := sameHeaders_authHeaders hcredentials hcredentials'
  exact ⟨rfl, .cons ⟨rfl, fun _ => rfl⟩ (.cons ⟨rfl, fun _ => rfl⟩ hauth)⟩

/-- The name of the setting that holds the password. -/
def passwordName : String := settingStem ++ "PASSWORD"

/-- Environments with the same texts but for one name. -/
def SameBesidesPassword (env env' : Environment) : Prop :=
  ∀ name, name ≠ passwordName → env'.get? name = env.get? name

namespace SameBesidesPassword

variable {env env' : Environment} {o : Command.Options}

theorem setting? (h : SameBesidesPassword env env') {name : String}
    (hname : settingStem ++ name ≠ passwordName) :
    StationWatch.setting? env' name = StationWatch.setting? env name :=
  h _ hname

theorem nonEmpty? (h : SameBesidesPassword env env') {name : String}
    (hname : settingStem ++ name ≠ passwordName) :
    StationWatch.nonEmpty? env' name = StationWatch.nonEmpty? env name := by
  rw [StationWatch.nonEmpty?, h.setting? hname]
  rfl

theorem numberSetting (h : SameBesidesPassword env env') {α : Type} {name : String}
    (hname : settingStem ++ name ≠ passwordName) (usual : α) (read : RawText → Option α) :
    StationWatch.numberSetting env' name usual read =
      StationWatch.numberSetting env name usual read := by
  rw [StationWatch.numberSetting, h.setting? hname]
  rfl

/-- The settings of the connection differ only in the password. -/
theorem load (h : SameBesidesPassword env env') :
    (BridgeSettings.load env').map BridgeSettings.disclosed =
      (BridgeSettings.load env).map BridgeSettings.disclosed := by
  have haddress := @nonEmpty? _ _ h "BASE_URL" (by decide)
  have husername := @nonEmpty? _ _ h "USERNAME" (by decide)
  have hinterval := @numberSetting _ _ h _ "REFRESH_INTERVAL" (by decide) 60 RawText.integer?
  have htimeout := @numberSetting _ _ h _ "TIMEOUT" (by decide) 10.0 RawText.real?
  have hattempts := @numberSetting _ _ h _ "RETRY_ATTEMPTS" (by decide) 1 RawText.integer?
  unfold BridgeSettings.load
  rw [haddress, husername, hinterval, htimeout, hattempts]
  cases StationWatch.nonEmpty? env "BASE_URL" with
  | none => rfl
  | some baseUrl =>
    apply Except.map_bind_congr
    intro interval
    apply Except.map_bind_congr
    intro timeout
    apply Except.map_bind_congr
    intro attempts
    exact BridgeSettings.check_congr rfl

theorem baseSettings (h : SameBesidesPassword env env') :
    (Command.baseSettings o env').map BridgeSettings.disclosed =
      (Command.baseSettings o env).map BridgeSettings.disclosed := by
  unfold Command.baseSettings
  cases Command.given o.baseUrl with
  | none => exact h.load
  | some baseUrl =>
    rcases Except.map_eq_map h.load with
      ⟨fault, henv, henv'⟩ | ⟨settings, settings', henv, henv', hsame⟩
    · rw [henv, henv']
    · rw [henv, henv']
      exact BridgeSettings.check_congr
        (congrArg (fun shown : BridgeSettings => { shown with baseUrl }) hsame)

theorem bridgeSettings (h : SameBesidesPassword env env') :
    (Command.bridgeSettings o env').map BridgeSettings.disclosed =
      (Command.bridgeSettings o env).map BridgeSettings.disclosed := by
  unfold Command.bridgeSettings
  rcases Except.map_eq_map (h.baseSettings (o := o)) with
    ⟨fault, henv, henv'⟩ | ⟨settings, settings', henv, henv', hsame⟩
  · rw [henv, henv']
  · rw [henv, henv']
    dsimp only
    split
    · exact congrArg Except.ok hsame
    · apply BridgeSettings.check_congr
      rw [BridgeSettings.eq_of_disclosed hsame]
      rfl

theorem weatherSettings (h : SameBesidesPassword env env') :
    Command.weatherSettings o env' = Command.weatherSettings o env := by
  have hplace := @setting? _ _ h "LOCATION" (by decide)
  have hnearest := @setting? _ _ h "USE_NEAREST_STATION" (by decide)
  have hstation := @nonEmpty? _ _ h "STATION_NAME" (by decide)
  have hmeasurements := @nonEmpty? _ _ h "MEASUREMENTS" (by decide)
  rw [Command.weatherSettings_eq, Command.weatherSettings_eq, hnearest, hstation, hmeasurements,
    Command.location, hplace]
  rfl

/-- The same fault, or the same settings but for the password. -/
theorem allSettings (h : SameBesidesPassword env env') (o : Command.Options) :
    (∃ fault, Command.allSettings o env = .error fault ∧
        Command.allSettings o env' = .error fault) ∨
      ∃ bridge bridge' weather, Command.allSettings o env = .ok (bridge, weather) ∧
        Command.allSettings o env' = .ok (bridge', weather) ∧
        bridge'.disclosed = bridge.disclosed := by
  unfold Command.allSettings
  rw [h.weatherSettings]
  rcases Except.map_eq_map (h.bridgeSettings (o := o)) with
    ⟨fault, henv, henv'⟩ | ⟨bridge, bridge', henv, henv', hsame⟩
  · rw [henv, henv']
    exact .inl ⟨fault, rfl, rfl⟩
  · rw [henv, henv']
    cases Command.weatherSettings o env with
    | error fault => exact .inl ⟨fault, rfl, rfl⟩
    | ok weather => exact .inr ⟨bridge, bridge', weather, rfl, rfl, hsame⟩

end SameBesidesPassword

/-! ### Runs -/

namespace Command

open Watch

variable {headers : Headers}

/-- A run is left only by steps with which it is left. -/
theorem isLeaving_of_mem_during {leave : Leave} {number : Nat} {step : Step}
    (h : step ∈ leave.during number) : step.isLeaving = true := by
  rcases during_eq_nil_or leave number with hnone | ⟨interrupted, rfl⟩
  · rw [hnone] at h
    cases h
  · rw [Leave.during, if_pos rfl] at h
    cases interrupted with
    | true =>
      cases List.mem_singleton.1 h
      rfl
    | false =>
      rcases List.mem_cons.1 h with rfl | hlast
      · rfl
      · cases List.mem_singleton.1 hlast
        rfl

theorem discreet_opened (s : Surroundings) (bridge : Bridge) (weather : WeatherSettings)
    (leave : Leave) : (opened s bridge weather leave).inner.Discreet := by
  intro scripted hscripted step hstep
  obtain ⟨number, hnumber, rfl⟩ := List.mem_mapIdx.1 hscripted
  exact isLeaving_of_mem_during hstep

theorem runOnce_withHeaders {w : Watch} (h : w.inner.Discreet) :
    runOnce (w.withHeaders headers) = Prod.map id (withHeaders headers) (runOnce w) := by
  obtain ⟨hactivated, hdiscreet⟩ := @activate_withHeaders headers false w h
  unfold runOnce
  rw [hactivated]
  generalize activate false w = activated at hdiscreet
  rcases activated with ⟨outcome | outcome, started⟩
  · obtain ⟨hrefreshed, -⟩ := refresh_withHeaders (heedless_performWithin 0) started hdiscreet
    dsimp only [Prod.map, id]
    rw [hrefreshed]
    exact congrArg (Prod.mk _) (shutDown_withHeaders false _)
  · rfl

theorem awaitJob_withHeaders (waits : Nat) {w : Watch} (h : w.inner.Discreet) :
    awaitJob waits (w.withHeaders headers) = (awaitJob waits w).withHeaders headers := by
  unfold awaitJob
  rw [refreshJob_withHeaders, table_withHeaders]
  cases w.inner.refreshJob with
  | none => rfl
  | some number =>
    dsimp only
    split
    · rfl
    · exact Watch.runJob_withHeaders (heedless_performWithin 1) _ _ _ h

theorem runJob_withHeaders (waits : Nat) (leave : Leave) {w : Watch} (h : w.inner.Discreet) :
    runJob waits leave (w.withHeaders headers) =
      Prod.map id (withHeaders headers) (runJob waits leave w) := by
  obtain ⟨hactivated, hdiscreet⟩ := @activate_withHeaders headers true w h
  unfold runJob
  rw [hactivated]
  generalize activate true w = activated at hdiscreet
  rcases activated with ⟨outcome | outcome, started⟩
  · dsimp only [Prod.map, id]
    rw [awaitJob_withHeaders waits hdiscreet, shutDown_withHeaders]
    change (0, if hasLeft (awaitJob waits started) = true then _ else _) = _
    split <;> rfl
  · rfl

/-- A run on another connection does the same with other headers. -/
theorem runWith_withHeaders (o : Options) (s : Surroundings) (bridge : Bridge)
    (weather : WeatherSettings) : runWith o s (bridge.withHeaders headers) weather =
      Prod.map id (withHeaders headers) (runWith o s bridge weather) := by
  have hopened (leave : Leave) : opened s (bridge.withHeaders headers) weather leave =
      (opened s bridge weather leave).withHeaders headers := rfl
  rw [runWith_eq, runWith_eq, hopened, hopened, runOnce_withHeaders (discreet_opened _ _ _ _),
    runJob_withHeaders _ _ (discreet_opened _ _ _ _), ← apply_ite (Prod.map id _)]

/-- What two runs find that differ only in the password, once files of settings were read. -/
structure Surroundings.Alike (s s' : Surroundings) (env env' : Environment) : Prop where
  loaded : s.fullEnvironment = .ok env
  loaded' : s'.fullEnvironment = .ok env'
  environment : SameBesidesPassword env env'
  platform : s'.platform = s.platform
  registry : s'.registry = s.registry
  replies : s'.replies = s.replies
  waits : s'.waits = s.waits
  leave : s'.leave = s.leave

theorem Surroundings.Alike.runWith_eq {s s' : Surroundings} {env env' : Environment}
    (h : s.Alike s' env env') (o : Options) (bridge : Bridge) (weather : WeatherSettings) :
    runWith o s' bridge weather = runWith o s bridge weather := by
  simp only [runWith, h.registry, h.replies, h.waits, h.leave]

/-- Two runs on connections of such settings differ in nothing but the headers. -/
theorem Surroundings.Alike.runWith_of_disclosed {s s' : Surroundings} {env env' : Environment}
    (h : s.Alike s' env env') (o : Options) (weather : WeatherSettings)
    {settings settings' : BridgeSettings} {bridge bridge' : Bridge}
    (hsame : settings'.disclosed = settings.disclosed)
    (hbridge : settings.bridge s.platform = .ok bridge)
    (hbridge' : settings'.bridge s'.platform = .ok bridge') :
    SameHeaders bridge.service.headers bridge'.service.headers ∧
      runWith o s' bridge' weather =
        Prod.map id (withHeaders bridge'.service.headers) (runWith o s bridge weather) := by
  rw [h.platform] at hbridge'
  obtain ⟨heq, hheaders⟩ := BridgeSettings.bridge_of_disclosed hsame hbridge hbridge'
  refine ⟨hheaders, ?_⟩
  rw [h.runWith_eq, ← runWith_withHeaders, ← heq]

/-- The result of a run does not depend on the password. -/
theorem Surroundings.Alike.runIn_eq {s s' : Surroundings} {env env' : Environment}
    (h : s.Alike s' env env') {o : Options} {result result' : Result}
    (hrun : runIn o s env = .ok result) (hrun' : runIn o s' env' = .ok result') :
    result' = result := by
  rcases runIn_eq_ok_iff.1 hrun with
    ⟨fault, hsettings, rfl⟩ | ⟨settings, weather, bridge, hsettings, hmade, rfl⟩
  all_goals rcases runIn_eq_ok_iff.1 hrun' with
    ⟨fault', hsettings', rfl⟩ | ⟨settings', weather', bridge', hsettings', hmade', rfl⟩
  all_goals rcases h.environment.allSettings o with
    ⟨other, henv, henv'⟩ | ⟨one, one', watched, henv, henv', hsame⟩
  all_goals cases hsettings.symm.trans henv
  all_goals cases hsettings'.symm.trans henv'
  · rfl
  · rw [(h.runWith_of_disclosed o weather hsame hmade hmade').2]
    rfl

/-- **No run tells the password.**  Two runs of the same words whose surroundings differ only in the
password, as it is after files of settings were read, have the same exit code, output and journal if
neither breaks off: every request, pause and wait, every entry of the log, every update and the
release of the connections.  A run breaks off exactly if its settings are in order and its user name
and password cannot be sent.  Two such runs are refused for the same settings, and otherwise what
they leave differs only in the headers, and there only in the value of the one that carries the
credentials. -/
theorem run_hides_password {s s' : Surroundings} {env env' : Environment}
    (h : s.Alike s' env env') (words : List RawText) :
    (∀ result result', run words s = .ok result → run words s' = .ok result' →
      result' = result) ∧
    (∀ ending, Options.parse words = .error ending →
      ∃ result, run words s = .ok result ∧ run words s' = .ok result) ∧
    ∀ o, Options.parse words = .ok o →
      ((∃ crash, run words s = .error crash) ↔ BreaksOff o env) ∧
      ((∃ crash, run words s' = .error crash) ↔ BreaksOff o env') ∧
      ((∃ fault, allSettings o env = .error fault ∧ allSettings o env' = .error fault) ∨
        ∃ settings settings' weather, allSettings o env = .ok (settings, weather) ∧
          allSettings o env' = .ok (settings', weather) ∧
          settings'.username = settings.username ∧
          ∀ bridge bridge', settings.bridge s.platform = .ok bridge →
            settings'.bridge s'.platform = .ok bridge' →
            SameHeaders bridge.service.headers bridge'.service.headers ∧
              runWith o s' bridge' weather = Prod.map id
                (withHeaders bridge'.service.headers) (runWith o s bridge weather)) := by
  refine ⟨fun result result' hrun hrun' => ?_, fun ending hparse => ?_, fun o hparse => ?_⟩
  · cases hparse : Options.parse words with
    | error ending =>
      simp only [run, hparse] at hrun hrun'
      cases hrun
      cases hrun'
      rfl
    | ok o =>
      exact h.runIn_eq ((run_eq_ok_iff hparse h.loaded).1 hrun)
        ((run_eq_ok_iff hparse h.loaded').1 hrun')
  · -- No setting was read then.
    refine ⟨⟨ending.code, ending.output, .warning, []⟩, ?_, ?_⟩
    · rw [run, hparse]
    · rw [run, hparse]
  · refine ⟨exists_run_eq_error_iff hparse h.loaded, exists_run_eq_error_iff hparse h.loaded', ?_⟩
    rcases h.environment.allSettings o with
      hrejected | ⟨settings, settings', weather, henv, henv', hsame⟩
    · exact .inl hrejected
    · refine .inr ⟨settings, settings', weather, henv, henv', ?_, fun bridge bridge' hmade hmade' =>
        h.runWith_of_disclosed o weather hsame hmade hmade'⟩
      rw [BridgeSettings.eq_of_disclosed hsame]

/-- Surroundings with an address, a place, a user and a password. -/
def guarded (password : RawText) : Surroundings :=
  { environment := Environment.set passwordName password
      [("OPENSMARTCITY_BASE_URL", "https://h"), ("OPENSMARTCITY_LOCATION", "51.2,7.1"),
       ("OPENSMARTCITY_USERNAME", "ada")]
    replies := [.response ⟨404, "", "Not Found"⟩] }

theorem alike_guarded (password password' : RawText) :
    (guarded password).Alike (guarded password') (guarded password).environment
      (guarded password').environment := by
  refine ⟨rfl, rfl, ?_, rfl, rfl, rfl, rfl, rfl⟩
  intro name hname
  exact (Environment.get?_set_of_ne password' _ hname.symm).trans
    (Environment.get?_set_of_ne password _ hname.symm).symm

/-- Two runs of one cycle that fails are alike but for the header of their passwords. -/
theorem run_hides_two_passwords :
    let settings (password : RawText) : BridgeSettings :=
      { baseUrl := "https://h", username := some "ada", password := some password }
    (∃ result, run ["--once"] (guarded "b") = .ok result ∧
      run ["--once"] (guarded "c") = .ok result ∧ result.exitCode = 1) ∧
    ∃ weather bridge bridge' w,
      (settings "b").bridge = .ok bridge ∧ (settings "c").bridge = .ok bridge' ∧
      runWith { once := true } (guarded "b") bridge weather = (1, w) ∧
      runWith { once := true } (guarded "c") bridge' weather =
        (1, w.withHeaders bridge'.service.headers) ∧
      bridge.service.headers.getLast? = some ("Authorization", "Basic YWRhOmI=") ∧
      bridge'.service.headers.getLast? = some ("Authorization", "Basic YWRhOmM=") := by
  intro settings
  have hparse : Options.parse ["--once"] = .ok { once := true } := rfl
  have hfirst : allSettings { once := true } (guarded "b").environment =
      .ok (settings "b", { location := "51.2,7.1" }) := rfl
  have hsecond : allSettings { once := true } (guarded "c").environment =
      .ok (settings "c", { location := "51.2,7.1" }) := rfl
  let connection (header : String) : Bridge :=
    ⟨.connect { baseUrl := "https://h" } [("Authorization", header)], 60⟩
  have hbridge : (settings "b").bridge = .ok (connection "Basic YWRhOmI=") := rfl
  have hbridge' : (settings "c").bridge = .ok (connection "Basic YWRhOmM=") := rfl
  obtain ⟨result, hrun⟩ : ∃ result, run ["--once"] (guarded "b") = .ok result := ⟨_, rfl⟩
  obtain ⟨result', hrun'⟩ : ∃ result, run ["--once"] (guarded "c") = .ok result := ⟨_, rfl⟩
  obtain ⟨hsame, -, hsettings⟩ := run_hides_password (alike_guarded "b" "c") ["--once"]
  obtain rfl := hsame result result' hrun hrun'
  obtain ⟨-, -, ⟨fault, henv, -⟩ | ⟨one, one', weather, henv, henv', -, hran⟩⟩ :=
    hsettings _ hparse
  · cases hfirst.symm.trans henv
  cases hfirst.symm.trans henv
  cases hsecond.symm.trans henv'
  obtain ⟨-, hran⟩ := hran _ _ hbridge hbridge'
  have hcode : (runWith { once := true } (guarded "b") (connection "Basic YWRhOmI=")
    { location := "51.2,7.1" }).1 = 1 := by decide +kernel
  have hended : runWith { once := true } (guarded "b") (connection "Basic YWRhOmI=")
      { location := "51.2,7.1" } = (1, (runWith { once := true } (guarded "b")
        (connection "Basic YWRhOmI=") { location := "51.2,7.1" }).2) := Prod.ext hcode rfl
  have hresult : result'.exitCode = 1 := by
    rcases runIn_eq_ok_iff.1 ((run_eq_ok_iff (s := guarded "b") hparse rfl).1 hrun) with
      ⟨fault, hfault, -⟩ | ⟨one, weather, bridge, hok, hmade, rfl⟩
    · cases hfirst.symm.trans hfault
    · cases hfirst.symm.trans hok
      cases hbridge.symm.trans hmade
      exact hcode
  refine ⟨⟨result', hrun, hrun', hresult⟩, { location := "51.2,7.1" }, _, _, _, hbridge, hbridge',
    hended, ?_, rfl, rfl⟩
  rw [hran, hended]
  rfl

/-- A password with a half in it makes a difference: only the run with the other one has an end. -/
theorem broken_password_breaks_off :
    (guarded "b").Alike (guarded strayByte) (guarded "b").environment
      (guarded strayByte).environment ∧
    (∃ result, run ["--once"] (guarded "b") = .ok result) ∧
    ∃ fault, run ["--once"] (guarded strayByte) = .error (.credentials fault) :=
  ⟨alike_guarded _ _, ⟨_, rfl⟩, ⟨_, rfl⟩⟩

end Command

end StationWatch
