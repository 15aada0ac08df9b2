import StationWatch.Events

/-!
# Jobs with a fixed delay

A job first waits for its initial delay and then runs, waits for its period and runs again until it
is cancelled, so its runs never overlap.  Cancelling never waits: a run in progress ends, but no
other one starts.  A scheduler keeps its jobs until they are cancelled, and can cancel all at once.

Time is virtual.  A job has a budget of waits; the wait that finds the budget used up cancels the
job, as someone outside would.  Here a wait may be of any length; a clock that refuses to wait for
more than 9223372036 seconds ends the job that asks for it.

## Main definitions

* `Job`, `Timetable` — the jobs and those that the scheduler keeps.
* `Timetable.schedule`, `Timetable.cancel`, `Timetable.shutdown`.
* `Timed` — a state with a timetable, the running job and a journal.
* `Timed.guarded` — a callback that may raise something.
* `Timed.rounds`, `Timed.body`, `Timed.join` — the runs of a job.

## References

`SPEC_FULL.md`, section 5.
-/

namespace StationWatch

/-- A callback repeated with a fixed delay. -/
structure Job where
  /-- Seconds before the first run. -/
  initialDelay : Float
  /-- Seconds between runs. -/
  period : Float
  /-- Whether no further run may start. -/
  cancelled : Bool
  /-- Whether the job was started and has not ended. -/
  alive : Bool
  runs : Nat
  /-- How many waits may still pass before the job is cancelled from outside. -/
  budget : Nat
  deriving Repr, Inhabited

/-- The period of a job must be positive. -/
structure PeriodFault where
  period : Float
  deriving Repr, Inhabited

/-- The wording of the fault. -/
def PeriodFault.message (fault : PeriodFault) : String :=
  "Period must be positive, got " ++ Decimal.text fault.period

namespace Job

/-- A new job; a negative initial delay counts as none. -/
def create (initialDelay period : Float) : Except PeriodFault Job :=
  if period ≤ 0.0 then .error ⟨period⟩
  else
    .ok
      { initialDelay := if 0.0 < initialDelay then initialDelay else 0.0
        period, cancelled := false, alive := false, runs := 0, budget := 0 }

/-- The job as others see it. -/
def view (job : Job) : JobView := ⟨job.initialDelay, job.period, job.cancelled, job.runs⟩

/-- The job after a wait, and whether it must stop. -/
def afterWait (job : Job) : Bool × Job :=
  if job.cancelled then (true, job)
  else
    match job.budget with
    | 0 => (true, { job with cancelled := true })
    | budget + 1 => (false, { job with budget })

end Job

/-- All jobs by number, and the numbers of those that the scheduler keeps. -/
structure Timetable where
  /-- All jobs, in the order in which they were made. -/
  jobs : List Job
  /-- The numbers of the jobs that the scheduler keeps. -/
  tracked : List Nat
  deriving Repr, Inhabited

namespace Timetable

/-- No jobs. -/
def empty : Timetable := ⟨[], []⟩

/-- Whether a job is cancelled; one that does not exist counts as cancelled. -/
def isCancelled (t : Timetable) (number : Nat) : Bool :=
  (t.jobs[number]?).elim true Job.cancelled

/-- A change to one job. -/
def modify (t : Timetable) (number : Nat) (f : Job → Job) : Timetable :=
  { t with jobs := t.jobs.modify number f }

/-- A job that the scheduler does not know, and its number. -/
def add (t : Timetable) (job : Job) : Timetable × Nat :=
  ({ t with jobs := t.jobs ++ [job] }, t.jobs.length)

/-- A job begins to wait for its first run. -/
def start (t : Timetable) (number : Nat) : Timetable :=
  t.modify number fun job => { job with alive := true }

/-- A job that the scheduler makes, keeps and starts, and its number.  The scheduler forgets the
jobs that were cancelled meanwhile. -/
def schedule (t : Timetable) (initialDelay period : Float) :
    Except PeriodFault (Timetable × Nat) :=
  match Job.create initialDelay period with
  | .error fault => .error fault
  | .ok job =>
    let (grown, number) := t.add job
    let kept := t.tracked.filter fun n => !t.isCancelled n
    .ok ({ grown with tracked := kept ++ [number] }.start number, number)

/-- A job cancelled, and whether it was not before. -/
def cancel (t : Timetable) (number : Nat) : Timetable × Bool :=
  (t.modify number fun job => { job with cancelled := true }, !t.isCancelled number)

/-- Every job that the scheduler keeps cancelled and forgotten. -/
def shutdown (t : Timetable) : Timetable :=
  { t.tracked.foldl (fun t number => (t.cancel number).1) t with tracked := [] }

/-- A job given a budget of waits. -/
def grant (t : Timetable) (number waits : Nat) : Timetable :=
  t.modify number fun job => { job with budget := waits }

/-- One more run of a job. -/
def countRun (t : Timetable) (number : Nat) : Timetable :=
  t.modify number fun job => { job with runs := job.runs + 1 }

/-- A job that has ended. -/
def finish (t : Timetable) (number : Nat) : Timetable :=
  t.modify number fun job => { job with alive := false }

/-- A job after a wait, and whether it must stop. -/
def afterWait (t : Timetable) (number : Nat) : Bool × Timetable :=
  match t.jobs[number]? with
  | none => (true, t)
  | some job => (job.afterWait.1, t.modify number fun _ => job.afterWait.2)

end Timetable

/-- A state with a timetable, the number of the job that is running, and a journal. -/
structure Timed (σ : Type) where
  table : Timetable
  /-- The job that is running, if any. -/
  running : Option Nat
  journal : Journal
  /-- Everything else. -/
  inner : σ
  deriving Inhabited

namespace Timed

variable {σ : Type}

/-- A state before anything happened. -/
def start (inner : σ) : Timed σ := ⟨.empty, none, [], inner⟩

/-- One more entry in the journal. -/
def note (w : Timed σ) (event : Event) : Timed σ := { w with journal := event :: w.journal }

/-- An entry of the log in the journal. -/
def log (w : Timed σ) (level : Level) (source : Source) (message : String) : Timed σ :=
  w.note (.logged ⟨level, source, message⟩)

/-- A change to everything but the jobs and the journal. -/
def update (w : Timed σ) (f : σ → σ) : Timed σ := { w with inner := f w.inner }

/-- A change to the jobs. -/
def retime (w : Timed σ) (f : Timetable → Timetable) : Timed σ := { w with table := f w.table }

/-- A wait of a job, and whether the job must stop after it. -/
def wait (w : Timed σ) (number : Nat) (seconds : Float) : Bool × Timed σ :=
  let w := w.note (.wait seconds)
  let (ended, table) := w.table.afterWait number
  (ended, { w with table })

/-- A callback that tells whether it raised something.  That is reported, and ends no schedule. -/
def guarded (callback : Timed σ → Bool × Timed σ) (w : Timed σ) : Timed σ :=
  let (raised, w) := callback w
  if raised then w.log .error .scheduler "Scheduled callback raised" else w

/-- The runs of a job after its initial delay.  `limit` bounds their number; a job has at most one
more than its budget. -/
def rounds (callback : Timed σ → Timed σ) (number : Nat) (period : Float) :
    (limit : Nat) → Timed σ → Timed σ
  | 0, w => w
  | limit + 1, w =>
    if w.table.isCancelled number then w
    else
      let (ended, w) := ((callback w).retime (·.countRun number)).wait number period
      if ended then w else rounds callback number period limit w

/-- The whole life of a job after its start. -/
def body (callback : Timed σ → Timed σ) (number : Nat) (job : Job) (limit : Nat) (w : Timed σ) :
    Timed σ :=
  let outer := w.running
  let (ended, w) := { w with running := some number }.wait number job.initialDelay
  let w := if ended then w else rounds callback number job.period limit w
  { w with running := outer }

/-- The end of a job waited for: nothing if it has ended or is the one that waits. -/
def join (callback : Timed σ → Timed σ) (number : Nat) (limit : Nat) (patience : Option Float)
    (w : Timed σ) : Timed σ :=
  match w.table.jobs[number]? with
  | none => w
  | some job =>
    if job.alive ∧ w.running ≠ some number then
      (body callback number job limit (w.note (.join patience))).retime (·.finish number)
    else w

end Timed

end StationWatch
