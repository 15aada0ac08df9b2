import StationWatch.Cycle

/-!
# What is seen from outside

Every run of the watch leaves a journal of what was sent, waited for, published and reported.
Beside what others can see it holds milestones, which mark where lifetimes and cycles begin and end.

## Main definitions

* `StepReport` — what is told after one step in the life of a handler.
* `Milestone`, `Event`, `Journal` — the entries of a journal.
* `Journal.announcements`, `Journal.requests` — views of a journal.
* `Sink` — who is told values and statuses.
-/

namespace StationWatch

/-- Why a sink did not take an update. -/
structure SinkFault where
  message : RawText
  deriving DecidableEq, Repr, Inhabited

/-- What one step in the life of a handler yields. -/
inductive StepResult
  | nothing
  /-- The outcome of a cycle or of an activation, if there was one. -/
  | outcome (outcome : Option Outcome)
  /-- Whether a job was cancelled by the step. -/
  | cancelled (cancelled : Bool)
  /-- The sink did not take an update of a cycle. -/
  | raised (fault : SinkFault)
  | bridge (basePath : RawText) (refreshInterval : Int) (headers : Headers)
  /-- What the step needs is not there. -/
  | skipped
  deriving Repr, Inhabited

/-- The state of a job as others see it. -/
structure JobView where
  initialDelay : Float
  period : Float
  cancelled : Bool
  runs : Nat
  deriving Repr, Inhabited

/-- What is told after one step in the life of a handler. -/
structure StepReport where
  step : String
  active : Bool
  job : Option JobView
  phase : Option Phase
  result : StepResult
  deriving Repr, Inhabited

/-- Where lifetimes and cycles begin and end. -/
inductive Milestone
  /-- A handler was activated and began the lifetime of this number. -/
  | activated (lifetime : Nat)
  /-- A handler was not activated, for want of a place. -/
  | refused (fault : LocationFault)
  | disposed
  /-- A cycle of this lifetime began. -/
  | began (lifetime : Nat)
  /-- A cycle of this lifetime ended with this outcome. -/
  | concluded (lifetime : Nat) (outcome : Outcome)
  /-- A cycle of this lifetime had this outcome, and was broken off when the sink was told these
  updates and did not take the last one. -/
  | broken (lifetime : Nat) (outcome : Outcome) (told : List Announcement)
  deriving Repr, Inhabited

/-- An entry of a journal. -/
inductive Event
  | request (request : Request)
  | pause (seconds : Float)
  /-- The sink was told a value or a status. -/
  | announced (announcement : Announcement)
  /-- A job waits for its next run. -/
  | wait (seconds : Float)
  /-- The end of a job is waited for, with a limit or without. -/
  | join (limit : Option Float)
  | closed
  | logged (entry : LogEntry)
  | called (job : Nat) (action : String)
  /-- A cancellation from within a job, and whether it was the first. -/
  | cancelled (first : Bool)
  /-- A step within a request ended. -/
  | stepped (report : StepReport)
  /-- A milestone, not seen from outside. -/
  | reached (milestone : Milestone)
  deriving Repr, Inhabited

/-- The entries of a journal, the last one first. -/
abbrev Journal := List Event

namespace Event

/-- The announcement of an entry, if it is one. -/
def announcement? : Event → Option Announcement
  | .announced announcement => some announcement
  | _ => none

/-- The request of an entry, if it is one. -/
def request? : Event → Option Request
  | .request r => some r
  | _ => none

/-- Whether an entry is seen from outside. -/
def isVisible : Event → Bool
  | .reached _ => false
  | _ => true

end Event

namespace Journal

/-- What the sink was told, in order. -/
def announcements (journal : Journal) : List Announcement :=
  journal.reverse.filterMap Event.announcement?

/-- The requests that were sent, in order. -/
def requests (journal : Journal) : List Request := journal.reverse.filterMap Event.request?

/-- The entries that others see, in order. -/
def visible (journal : Journal) : List Event := journal.reverse.filter Event.isVisible

end Journal

/-- A sink, which may not take an update of a cycle; whether it does may depend on all that
happened. -/
structure Sink where
  raises : Journal → Announcement → Option SinkFault
  deriving Inhabited

/-- A sink that takes every update. -/
def Sink.steady : Sink := ⟨fun _ _ => none⟩

/-- The reply of a network that has no more replies. -/
def exhausted : Reply := .failure ⟨.connection, some "script exhausted"⟩

/-- A network that gives its replies in order, with a journal and the phase of a single cycle. -/
structure Session where
  /-- The replies still to be given. -/
  replies : List Reply
  journal : Journal
  phase : Phase
  deriving Inhabited

namespace Session

/-- A session with the given replies. -/
def ofReplies (replies : List Reply) : Session := ⟨replies, [], .idle⟩

/-- One more entry in the journal. -/
def note (s : Session) (event : Event) : Session := { s with journal := event :: s.journal }

/-- The reply to a request. -/
def reply (request : Request) (s : Session) : Reply × Session :=
  let s := s.note (.request request)
  match s.replies with
  | [] => (exhausted, s)
  | next :: rest => (next, { s with replies := rest })

/-- An effect. -/
def perform (effect : Effect) (s : Session) : Session :=
  match effect with
  | .pause seconds => s.note (.pause seconds)
  | .log entry => s.note (.logged entry)
  | .enter phase => { s with phase }

/-- A dialogue carried out in a session. -/
def run {α : Type} (d : Dialogue α) (s : Session) : α × Session := d.run reply perform s

/-- A cycle carried out in a session, with everything it publishes. -/
def runCycle (service : Service) (registry : Registry) (settings : WeatherSettings)
    (p : ReferencePoint) (s : Session) : Outcome × Session :=
  let (outcome, s) := s.run (Cycle.program service registry settings p)
  let s := { s with phase := outcome.phase }
  (outcome, outcome.announcements.foldl (fun s a => s.note (.announced a)) s)

end Session

end StationWatch
