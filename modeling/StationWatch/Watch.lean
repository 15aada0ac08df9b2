import StationWatch.Schedule
import StationWatch.Settings

/-!
# The life of a handler

A handler binds a watched place to a bridge.  Each successful activation begins a lifetime and
ends the one before; disposing ends it without beginning another.  A cycle belongs to the lifetime
in which it was made, and what it publishes reaches the sink only while that lifetime lasts.  At
most one refresh runs at a time: another one that comes meanwhile does nothing.  A sink that does
not take an update breaks its cycle off, and whoever ran the cycle is told.

The world around the handler answers requests from a list of replies.  Steps may be attached to a
reply; they take place while the request is pending.

## Main definitions

* `Step`, `ScriptedReply` — what can happen, also within a request.
* `Lifetime`, `Handler`, `Watch` — the state.
* `Watch.activate`, `Watch.dispose`, `Watch.refresh`, … — what a step does.
* `Watch.perform`, `Watch.step` — a step with all steps within its requests.

## References

`SPEC_FULL.md`, section 10.5.
-/

namespace StationWatch

mutual

/-- What can happen in the life of a handler. -/
inductive Step
  /-- The handler is activated, with a refresh job or without. -/
  | activate (schedule : Bool)
  | refresh
  | command (text : RawText)
  | dispose
  /-- The network gets other replies. -/
  | respond (replies : List ScriptedReply)
  /-- The current cycle and the current job are remembered. -/
  | hold
  | runHeldCycle
  /-- The remembered job runs, with a budget of waits. -/
  | runHeldJob (waits : Nat)
  /-- The current job runs, with a budget of waits. -/
  | runJob (waits : Nat)
  | cancelJob
  /-- The watched place is changed in the settings. -/
  | setLocation (location : RawText)
  | bridge
  | close
  /-- Whoever waits for the job of the handler stops waiting, and shuts down. -/
  | shutDown (interrupted : Bool)

/-- A reply of the network, with the steps that take place before it comes. -/
inductive ScriptedReply
  | mk (reply : Reply) (during : List Step)

end

instance : Inhabited Step := ⟨.refresh⟩

/-- The reply itself. -/
def ScriptedReply.reply : ScriptedReply → Reply
  | .mk reply _ => reply

/-- The steps that take place before the reply. -/
def ScriptedReply.during : ScriptedReply → List Step
  | .mk _ during => during

/-- A reply without steps. -/
def ScriptedReply.plain (reply : Reply) : ScriptedReply := .mk reply []

/-- The name of a step. -/
def Step.name : Step → String
  | .activate _ => "initialize"
  | .refresh => "refresh"
  | .command _ => "command"
  | .dispose => "dispose"
  | .respond _ => "respond"
  | .hold => "hold"
  | .runHeldCycle => "run_held_cycle"
  | .runHeldJob _ => "run_held_job"
  | .runJob _ => "run_job"
  | .cancelJob => "cancel_job"
  | .setLocation _ => "set_location"
  | .bridge => "bridge"
  | .close => "close"
  | .shutDown _ => "shut_down"

/-! ### Bounds

Every step takes place at most once, however deeply it lies within requests.  So the number of steps
bounds how deeply they can be nested, and the waits granted in them bound the runs of a job. -/

mutual

/-- The number of steps in a step, itself included. -/
def Step.count : Step → Nat
  | .respond replies => 1 + ScriptedReply.countAll replies
  | _ => 1

/-- The number of steps within a reply. -/
def ScriptedReply.count : ScriptedReply → Nat
  | .mk _ during => Step.countAll during

/-- The number of steps in a list of steps. -/
def Step.countAll : List Step → Nat
  | [] => 0
  | s :: rest => s.count + Step.countAll rest

/-- The number of steps within a list of replies. -/
def ScriptedReply.countAll : List ScriptedReply → Nat
  | [] => 0
  | r :: rest => r.count + ScriptedReply.countAll rest

end

mutual

/-- The waits granted in a step. -/
def Step.waits : Step → Nat
  | .runJob waits => waits
  | .runHeldJob waits => waits
  | .respond replies => ScriptedReply.waitsAll replies
  | _ => 0

/-- The waits granted within a reply. -/
def ScriptedReply.waits : ScriptedReply → Nat
  | .mk _ during => Step.waitsAll during

/-- The waits granted in a list of steps. -/
def Step.waitsAll : List Step → Nat
  | [] => 0
  | s :: rest => s.waits + Step.waitsAll rest

/-- The waits granted within a list of replies. -/
def ScriptedReply.waitsAll : List ScriptedReply → Nat
  | [] => 0
  | r :: rest => r.waits + ScriptedReply.waitsAll rest

end

/-! ### State -/

/-- A lifetime of a handler, with the cycle made at its beginning. -/
structure Lifetime where
  /-- The place that the cycle measures from. -/
  reference : ReferencePoint
  isOpen : Bool
  phase : Phase
  deriving Repr, Inhabited

/-- A handler with its bridge, its sink, its network and what someone remembers of it. -/
structure Handler where
  service : Service
  /-- Seconds between the cycles of the refresh job. -/
  refreshInterval : Int
  sink : Sink
  registry : Registry
  settings : WeatherSettings
  /-- All lifetimes, the current one last. -/
  lifetimes : List Lifetime
  /-- The number of the lifetime whose cycle a refresh runs. -/
  cycle : Option Nat
  refreshJob : Option Nat
  isRunning : Bool
  /-- The replies still to come. -/
  script : List ScriptedReply
  /-- The number of the lifetime whose cycle is remembered. -/
  heldCycle : Option Nat
  /-- The number of the job that is remembered. -/
  heldJob : Option Nat
  deriving Inhabited

namespace Handler

/-- A handler before its first activation. -/
def create (bridge : Bridge) (settings : WeatherSettings) (registry : Registry)
    (sink : Sink := .steady) : Handler :=
  { service := bridge.service, refreshInterval := bridge.refreshInterval, sink, registry, settings
    lifetimes := [], cycle := none, refreshJob := none, isRunning := false, script := []
    heldCycle := none, heldJob := none }

/-- Whether the current lifetime lasts. -/
def isActive (h : Handler) : Bool := (h.lifetimes.getLast?).elim false Lifetime.isOpen

/-- Whether the lifetime of a number lasts. -/
def isOpen (h : Handler) (number : Nat) : Bool :=
  (h.lifetimes[number]?).elim false Lifetime.isOpen

/-- The current lifetime ended. -/
def endLifetime (h : Handler) : Handler :=
  { h with
    lifetimes := h.lifetimes.modify (h.lifetimes.length - 1) fun l => { l with isOpen := false } }

/-- A lifetime begun, with a cycle that measures from the given place. -/
def beginLifetime (h : Handler) (p : ReferencePoint) : Handler :=
  let h := h.endLifetime
  { h with lifetimes := h.lifetimes ++ [⟨p, true, .idle⟩], cycle := some h.lifetimes.length }

/-- The cycle of a lifetime in another phase. -/
def enter (h : Handler) (number : Nat) (phase : Phase) : Handler :=
  { h with lifetimes := h.lifetimes.modify number fun l => { l with phase } }

end Handler

/-- A handler with its jobs and its journal. -/
abbrev Watch := Timed Handler

/-- How a step within a request takes place. -/
abbrev Nested := Step → Watch → StepReport × Watch

namespace Watch

/-- What is told after a step. -/
def report (w : Watch) (step : String) (result : StepResult) : StepReport :=
  { step, result
    active := w.inner.isActive
    job := (w.inner.refreshJob.bind (w.table.jobs[·]?)).map Job.view
    phase := (w.inner.cycle.bind (w.inner.lifetimes[·]?)).map Lifetime.phase }

/-! ### Lifetimes and jobs -/

/-- A refresh job, unless one is at work. -/
def startJob (w : Watch) : Watch :=
  if (w.inner.refreshJob.elim true w.table.isCancelled) then
    let w := w.log .info .handler
      ("Start refresh job at interval " ++ toString w.inner.refreshInterval ++ " seconds.")
    match w.table.schedule 0.0 (Decimal.ofInt w.inner.refreshInterval) with
    | .error _ => w
    | .ok (table, number) =>
      let w := { w with table }.log .debug .scheduler
        ("Scheduled job every " ++ toString w.inner.refreshInterval ++ "s after 0s")
      w.update ({ · with refreshJob := some number })
  else w

/-- The handler activated: a lifetime begins, and with it a refresh job if asked for.  Without a
valid place the handler says so and stays as it is. -/
def activate (schedule : Bool) (w : Watch) : Option Outcome × Watch :=
  match ReferencePoint.parse w.inner.settings.location with
  | .error fault =>
    let w := w.log .debug .handler
      ("Geo location is mandatory and has to be set, disabling handler: " ++ fault.message)
    let outcome : Outcome := .configFailure fault
    let w := w.note (.reached (.refused fault))
    (some outcome, w.note (.announced (.status outcome.update)))
  | .ok p =>
    let w := w.update (·.beginLifetime p)
    let w := w.note (.reached (.activated (w.inner.lifetimes.length - 1)))
    let w := w.note (.announced (.status .online))
    (none, if schedule then startJob w else w)

/-- The refresh job cancelled and forgotten. -/
def stopJob (w : Watch) : Watch :=
  match w.inner.refreshJob with
  | none => w
  | some number =>
    let (table, first) := w.table.cancel number
    let w : Watch := { w with table }
    let w := if first then w.log .info .handler "Stop refresh job." else w
    w.update ({ · with refreshJob := none })

/-- The handler disposed of: its lifetime ends, and its job is cancelled. -/
def dispose (w : Watch) : Watch :=
  let w := w.log .debug .handler "Dispose weather handler."
  let w := (w.update Handler.endLifetime).note (.reached .disposed)
  (stopJob w).update ({ · with cycle := none })

/-- The end of a watch: the handler is disposed of, and the connections are released. -/
def shutDown (interrupted : Bool) (w : Watch) : Watch :=
  let w := if interrupted then w.log .info .command "Interrupted, shutting down" else w
  (dispose w).note .closed

/-! ### Cycles -/

/-- The steps within a request, one after another. -/
def runNested (nested : Nested) : List Step → Watch → Watch
  | [], w => w
  | step :: rest, w =>
    let (told, w) := nested step w
    runNested nested rest (w.note (.stepped told))

/-- The reply to a request, after the steps attached to it. -/
def reply (nested : Nested) (request : Request) (w : Watch) : Reply × Watch :=
  let w := w.note (.request request)
  match w.inner.script with
  | [] => (exhausted, w)
  | next :: rest =>
    (next.reply, runNested nested next.during (w.update ({ · with script := rest })))

/-- An effect of the cycle of a lifetime. -/
def act (number : Nat) (effect : Effect) (w : Watch) : Watch :=
  match effect with
  | .pause seconds => w.note (.pause seconds)
  | .log entry => w.note (.logged entry)
  | .enter phase => w.update (·.enter number phase)

/-- An update of a cycle, which the sink is told if the lifetime of the cycle lasts. -/
def publish (number : Nat) (a : Announcement) (w : Watch) : Option SinkFault × Watch :=
  if w.inner.isOpen number then (w.inner.sink.raises w.journal a, w.note (.announced a))
  else (none, w)

/-- Updates of a cycle in a row, up to the first one that the sink does not take; then that fault,
and what the sink was told. -/
def publishAll (number : Nat) :
    List Announcement → Watch → Option (SinkFault × List Announcement) × Watch
  | [], w => (none, w)
  | a :: rest, w =>
    match publish number a w with
    | (some fault, w) => (some (fault, [a]), w)
    | (none, w) =>
      let (broken, w) := publishAll number rest w
      (broken.map fun b => (b.1, a :: b.2), w)

/-- The end of a cycle: its outcome is published. -/
def conclude (number : Nat) (outcome : Outcome) (w : Watch) : Option SinkFault × Watch :=
  match publishAll number outcome.announcements (w.update (·.enter number outcome.phase)) with
  | (none, w) => (none, w.note (.reached (.concluded number outcome)))
  | (some (fault, told), w) => (some fault, w.note (.reached (.broken number outcome told)))

/-- The cycle of a lifetime, from its beginning to its end. -/
def runCycle (nested : Nested) (number : Nat) (w : Watch) :
    Except SinkFault (Option Outcome) × Watch :=
  match w.inner.lifetimes[number]? with
  | none => (.ok none, w)
  | some lifetime =>
    let h := w.inner
    let program := Cycle.program h.service h.registry h.settings lifetime.reference
    let (outcome, w) :=
      program.run (reply nested) (act number) (w.note (.reached (.began number)))
    match conclude number outcome w with
    | (none, w) => (.ok (some outcome), w)
    | (some fault, w) => (.error fault, w)

/-- A refresh: the current cycle, if the handler is active and no other refresh is running.  However
the cycle ends, others may run after it. -/
def refresh (nested : Nested) (w : Watch) : Except SinkFault (Option Outcome) × Watch :=
  match w.inner.cycle with
  | none => (.ok none, w)
  | some number =>
    if !w.inner.isActive then (.ok none, w)
    else if w.inner.isRunning then
      (.ok none, w.log .debug .handler "Poll cycle already running, skipping refresh")
    else
      let (result, w) := runCycle nested number (w.update ({ · with isRunning := true }))
      (result, w.update ({ · with isRunning := false }))

/-- A refresh as the callback of a job, and whether it raised something. -/
def callback (nested : Nested) (w : Watch) : Bool × Watch :=
  match refresh nested w with
  | (.ok _, w) => (false, w)
  | (.error _, w) => (true, w)

/-- The only command that a handler knows, in whatever case. -/
def refreshCommand : String := "REFRESH"

/-- A command given to the handler. -/
def command (nested : Nested) (text : RawText) (w : Watch) :
    Except SinkFault (Option Outcome) × Watch :=
  if text.upper = refreshCommand then refresh nested w
  else (.ok none, w.log .debug .handler ("Ignoring unsupported command " ++ Text.mention text))

/-- The waits that may still be granted, and one more for the last run. -/
def roundLimit (w : Watch) (waits : Nat) : Nat :=
  waits + ScriptedReply.waitsAll w.inner.script + 1

/-- A job run with a budget of waits, and its end waited for. -/
def runJob (nested : Nested) (number waits : Nat) (patience : Option Float) (w : Watch) : Watch :=
  let limit := roundLimit w waits
  Timed.join (.guarded (callback nested)) number limit patience (w.retime (·.grant number waits))

/-! ### Steps -/

/-- What a cycle yields as a step. -/
def resultOf : Except SinkFault (Option Outcome) → StepResult
  | .ok outcome => .outcome outcome
  | .error fault => .raised fault

/-- What a step yields, and the state after it. -/
def yield (nested : Nested) (step : Step) (w : Watch) : StepResult × Watch :=
  match step with
  | .activate schedule => let (outcome, w) := activate schedule w; (.outcome outcome, w)
  | .refresh => let (result, w) := refresh nested w; (resultOf result, w)
  | .command text => let (result, w) := command nested text w; (resultOf result, w)
  | .dispose => (.nothing, dispose w)
  | .respond replies => (.nothing, w.update ({ · with script := replies }))
  | .hold =>
    (.nothing, w.update fun h => { h with heldCycle := h.cycle, heldJob := h.refreshJob })
  | .runHeldCycle =>
    match w.inner.heldCycle with
    | none => (.skipped, w)
    | some number => let (result, w) := runCycle nested number w; (resultOf result, w)
  | .runHeldJob waits =>
    match w.inner.heldJob with
    | none => (.skipped, w)
    | some number => (.nothing, runJob nested number waits none w)
  | .runJob waits =>
    match w.inner.refreshJob with
    | none => (.skipped, w)
    | some number => (.nothing, runJob nested number waits none w)
  | .cancelJob =>
    match w.inner.refreshJob with
    | none => (.skipped, w)
    | some number =>
      let (table, first) := w.table.cancel number
      (.cancelled first, { w with table })
  | .setLocation location =>
    (.nothing, w.update fun h => { h with settings := { h.settings with location } })
  | .bridge =>
    (.bridge w.inner.service.baseUrl w.inner.refreshInterval w.inner.service.headers, w)
  | .close => (.nothing, w.note .closed)
  | .shutDown interrupted => (.nothing, shutDown interrupted w)

/-- A step, with what is told after it. -/
def perform (nested : Nested) (step : Step) (w : Watch) : StepReport × Watch :=
  let (result, w) := yield nested step w
  (report w step.name result, w)

/-- A step with the steps within its requests, up to a depth. -/
def performWithin : (depth : Nat) → Nested
  | 0 => fun step w => (report w step.name .skipped, w)
  | depth + 1 => perform (performWithin depth)

/-- A step with all steps within its requests. -/
def step (step : Step) (w : Watch) : StepReport × Watch :=
  performWithin (step.count + ScriptedReply.countAll w.inner.script) step w

/-- Steps one after another, each with what is told after it and what happened during it. -/
def steps : List Step → Watch → List (StepReport × List Event) × Watch
  | [], w => ([], w)
  | s :: rest, w =>
    let before := w.journal.length
    let (told, w) := step s w
    let events := Journal.visible (w.journal.take (w.journal.length - before))
    let (more, w) := steps rest w
    ((told, events) :: more, w)

end Watch

end StationWatch
