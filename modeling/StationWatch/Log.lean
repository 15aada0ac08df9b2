import StationWatch.Text.Raw

/-!
# Log entries

Every part of the program reports under its own name, at one of four levels.

## Main definitions

* `Level`, `Source`, `LogEntry` — an entry and its parts.
* `Level.rank` — the order of the levels.

## References

`SPEC_FULL.md`, section 10.1.
-/

namespace StationWatch

/-- How much an entry matters. -/
inductive Level
  | debug
  | info
  /-- Something failed that may be expected to fail. -/
  | warning
  /-- Something failed that should not. -/
  | error
  deriving DecidableEq, Repr, Inhabited

namespace Level

/-- The place of a level among the others. -/
def rank : Level → Nat
  | .debug => 0
  | .info => 1
  | .warning => 2
  | .error => 3

/-- The name of a level. -/
def text : Level → String
  | .debug => "DEBUG"
  | .info => "INFO"
  | .warning => "WARNING"
  | .error => "ERROR"

/-- All levels. -/
def all : List Level := [.debug, .info, .warning, .error]

/-- The level of a name. -/
def ofText? (name : String) : Option Level := all.find? fun level => level.text == name

end Level

/-- The part of the program that reports. -/
inductive Source
  | root
  | command
  | state
  | handler
  | poll
  | scheduler
  | service
  /-- The repetition of requests. -/
  | retries
  | resolver
  | observations
  deriving DecidableEq, Repr, Inhabited

/-- The name under which a part reports. -/
def Source.name : Source → String
  | .root => "root"
  | .command => "opensmartcity.cli"
  | .state => "opensmartcity.state"
  | .handler => "opensmartcity.handler"
  | .poll => "opensmartcity.poll"
  | .scheduler => "opensmartcity.scheduler"
  | .service => "opensmartcity.client"
  | .retries => "opensmartcity.decorators"
  | .resolver => "opensmartcity.resolver"
  | .observations => "opensmartcity.observations"

/-- One entry of the log. -/
structure LogEntry where
  level : Level
  source : Source
  message : RawText
  deriving DecidableEq, Repr, Inhabited

/-- Whether an entry is written when entries below a level are left out. -/
def LogEntry.reaches (entry : LogEntry) (least : Level) : Bool :=
  decide (least.rank ≤ entry.level.rank)

end StationWatch
