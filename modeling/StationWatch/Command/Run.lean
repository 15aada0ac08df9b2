import StationWatch.Command.Options
import StationWatch.Watch
import StationWatch.Sink

/-!
# Runs of the command line

A run reads the options, completes them from the environment, to which a file of settings may add,
and then runs one cycle or a refresh job until that is cancelled.  The exit code tells how it went:
two for wrong options or settings, one for a single cycle that failed, zero otherwise.  A run whose
file of settings cannot be added, or whose credentials have no bytes, breaks off without one.

A run waits for its job, but may stop waiting while a cycle is in flight.  The cycle then goes on,
after the handler was disposed of and the connections were released.

## Main definitions

* `bridgeSettings`, `weatherSettings` — the settings in force.
* `Surroundings`, `Leave` — what a run finds around it.
* `run` — the exit code, the output and the journal of a run.
* `Result.events` — what is seen of a run.

## References

`SPEC_FULL.md`, sections 6 and 10.6.
-/

namespace StationWatch.Command

/-! ### Settings in force -/

/-- An option that is given and not empty. -/
def given (option : Option RawText) : Option RawText := option.filter fun text => !text.isEmpty

/-- The settings of the connection before interval and time limit are overridden: with an address
among the options, those of the environment count only if they are in order. -/
def baseSettings (o : Options) (env : Environment) : Except SettingsFault BridgeSettings :=
  match given o.baseUrl with
  | none => BridgeSettings.load env
  | some baseUrl =>
    match BridgeSettings.load env with
    | .ok settings => BridgeSettings.check { settings with baseUrl }
    | .error _ => BridgeSettings.check { baseUrl }

/-- The settings of the connection in force. -/
def bridgeSettings (o : Options) (env : Environment) : Except SettingsFault BridgeSettings :=
  match baseSettings o env with
  | .error fault => .error fault
  | .ok settings =>
    if o.interval.isNone && o.timeout.isNone then .ok settings
    else
      BridgeSettings.check
        { settings with
          refreshInterval := o.interval.getD settings.refreshInterval
          timeout := o.timeout.getD settings.timeout }

/-- What is watched. -/
def weatherSettings (o : Options) (env : Environment) : Except SettingsFault WeatherSettings := do
  let settings ← WeatherSettings.load env
  let measurements ←
    match given o.measurements with
    | some raw => measurementNames raw
    | none => .ok settings.measurements
  .ok
    { location := (given o.location).getD settings.location
      stationName := (given o.stationName).getD settings.stationName
      useNearest := o.nearest || settings.useNearest
      measurements }

/-- All settings in force. -/
def allSettings (o : Options) (env : Environment) :
    Except SettingsFault (BridgeSettings × WeatherSettings) := do
  let bridge ← bridgeSettings o env
  let weather ← weatherSettings o env
  .ok (bridge, weather)

/-! ### A run -/

/-- When a run stops waiting for its job, and whether it is interrupted then. -/
inductive Leave
  /-- When the job has ended. -/
  | withJob (interrupted : Bool)
  /-- While the request of this number is pending, or with the job if the network has no such reply.
  Without an interruption the job was cancelled before. -/
  | within (request : Nat) (interrupted : Bool)
  deriving DecidableEq, Repr, Inhabited

/-- Why a file of settings was not added to an environment. -/
structure FileFault where
  message : RawText
  deriving DecidableEq, Repr, Inhabited

/-- What a run finds around it. -/
structure Surroundings where
  environment : Environment := []
  /-- The file of settings added to an environment. -/
  loadFile : Environment → Except FileFault Environment := .ok
  platform : Platform := {}
  registry : Registry := .builtIn
  replies : List Reply := []
  /-- How many waits pass before the refresh job is cancelled from outside. -/
  waits : Nat := 0
  leave : Leave := .withJob false
  deriving Inhabited

/-- The environment with what the file of settings adds. -/
def Surroundings.fullEnvironment (s : Surroundings) : Except FileFault Environment :=
  s.loadFile s.environment

/-- The steps that take place while the request of a number is pending. -/
def Leave.during : Leave → (request : Nat) → List Step
  | .withJob _, _ => []
  | .within number interrupted, request =>
    if request = number then
      (if interrupted then [] else [.cancelJob]) ++ [.shutDown interrupted]
    else []

/-- The replies of the network, with the steps that take place before they come. -/
def Leave.script (leave : Leave) (replies : List Reply) : List ScriptedReply :=
  replies.mapIdx fun number reply => .mk reply (leave.during number)

/-- Whether a run is interrupted when its job has ended. -/
def Leave.isInterrupted : Leave → Bool
  | .withJob interrupted => interrupted
  | .within _ interrupted => interrupted

/-- Why a run breaks off. -/
inductive Crash
  | settingsFile (fault : FileFault)
  /-- The user name or the password has no bytes. -/
  | credentials (fault : EncodingFault)
  deriving DecidableEq, Repr, Inhabited

/-- The wording of a crash. -/
def Crash.message : Crash → RawText
  | .settingsFile fault => fault.message
  | .credentials fault => fault.message

/-- What a run leaves. -/
structure Result where
  exitCode : Nat
  output : String
  /-- The least level of entries that are written. -/
  level : Level
  journal : Journal
  deriving Inhabited

/-- The name of the sink that writes the updates of a run. -/
def sinkName : String := "weather"

/-- The seconds that a run waits for the end of its job at a time. -/
def patience : Float := 1.0

/-- The connections released. -/
def close (w : Watch) : Watch := w.note .closed

/-- One cycle without a job; whether it was a success decides the exit code. -/
def runOnce (w : Watch) : Nat × Watch :=
  match Watch.activate false w with
  | (some _, w) => (2, close w)
  | (none, w) =>
    let (result, w) := Watch.refresh (Watch.performWithin 0) w
    (if result.toOption.join.elim false Outcome.isSuccess then 0 else 1, close (Watch.dispose w))

/-- The end of the refresh job waited for, if there is one at work. -/
def awaitJob (waits : Nat) (w : Watch) : Watch :=
  match w.inner.refreshJob with
  | none => w
  | some number =>
    if w.table.isCancelled number then w
    else Watch.runJob (Watch.performWithin 1) number waits (some patience) w

/-- Whether a run has stopped waiting for its job while a cycle was in flight. -/
def hasLeft (w : Watch) : Bool := w.journal.any fun event => event matches .closed

/-- The refresh job until it is cancelled; the run is shut down, unless that was done while a cycle
was in flight. -/
def runJob (waits : Nat) (leave : Leave) (w : Watch) : Nat × Watch :=
  match Watch.activate true w with
  | (some _, w) => (2, close w)
  | (none, w) =>
    let w := awaitJob waits w
    (0, if hasLeft w then w else Watch.shutDown leave.isInterrupted w)

/-- A run with the given connection and settings. -/
def runWith (o : Options) (s : Surroundings) (bridge : Bridge) (weather : WeatherSettings) :
    Nat × Watch :=
  let handler := Handler.create bridge weather s.registry
  if o.once then runOnce (Timed.start { handler with script := s.replies.map .plain })
  else runJob s.waits s.leave (Timed.start { handler with script := s.leave.script s.replies })

/-- A run with the given options and environment. -/
def runIn (o : Options) (s : Surroundings) (env : Environment) : Except EncodingFault Result :=
  match allSettings o env with
  | .error fault => .ok ⟨2, "", o.logLevel, [.logged ⟨.error, .command, fault.message⟩]⟩
  | .ok (settings, weather) =>
    (settings.bridge s.platform).map fun bridge =>
      let (exitCode, w) := runWith o s bridge weather
      ⟨exitCode, "", o.logLevel, w.journal⟩

/-- A run of the command line.  The file of settings is read only if the options are in order. -/
def run (words : List RawText) (s : Surroundings) : Except Crash Result :=
  match Options.parse words with
  | .error ending => .ok ⟨ending.code, ending.output, .warning, []⟩
  | .ok o =>
    match s.fullEnvironment with
    | .error fault => .error (.settingsFile fault)
    | .ok env => (runIn o s env).mapError .credentials

/-- An entry as the writing sink shows it: updates are entries of the log. -/
def shownEvent : Event → Event
  | .announced a => .logged (announcementEntry sinkName a)
  | event => event

/-- Whether an entry is written when those below a level are left out.  The end of a step within a
request is not seen. -/
def isShown (level : Level) : Event → Bool
  | .logged entry => entry.reaches level
  | .stepped _ => false
  | event => event.isVisible

/-- What is seen of a run, in order. -/
def Result.events (r : Result) : List Event :=
  (r.journal.reverse.map shownEvent).filter (isShown r.level)

end StationWatch.Command
