import StationWatch.Status
import StationWatch.Log

/-!
# Sinks

A sink receives what is published.  One keeps everything in order and answers what came last; the
other writes a line for each update and remembers the last status.

## Main definitions

* `Recorder` — keeps every value and every status.
* `Recorder.latest`, `Recorder.lastStatus` — what came last.
* `announcementLine` — the line written for an update.

## References

`SPEC_FULL.md`, section 6.
-/

namespace StationWatch

/-- A sink that keeps everything, in order. -/
structure Recorder where
  values : List (Json × Reading)
  statuses : List StatusUpdate
  deriving Repr, Inhabited

namespace Recorder

/-- Nothing was published yet. -/
def empty : Recorder := ⟨[], []⟩

/-- One more update. -/
def receive (r : Recorder) : Announcement → Recorder
  | .value channel reading => { r with values := r.values ++ [(channel, reading)] }
  | .status update => { r with statuses := r.statuses ++ [update] }

/-- Many more updates, in order. -/
def receiveAll (r : Recorder) (announcements : List Announcement) : Recorder :=
  announcements.foldl receive r

/-- The last value on a channel. -/
def latest (r : Recorder) (channel : Json) : Option Reading :=
  (r.values.reverse.find? fun entry => entry.1.sameKey channel).map Prod.snd

/-- The last status. -/
def lastStatus (r : Recorder) : Option StatusUpdate := r.statuses.getLast?

end Recorder

/-- The line that a writing sink of the given name writes for an update. -/
def announcementLine (sink : String) : Announcement → RawText
  | .value channel reading => sink ++ "#" ++ channel.plain ++ " = " ++ reading.text
  | .status update =>
    let line := sink ++ " status: " ++ update.status.text
    match update.detail with
    | none => line
    | some .none => line
    | some detail => line ++ " (" ++ detail.text ++ ")"

/-- The log entry that a writing sink makes for an update. -/
def announcementEntry (sink : String) (a : Announcement) : LogEntry :=
  ⟨.info, .state, announcementLine sink a⟩

end StationWatch
