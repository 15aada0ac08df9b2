import StationWatch.Proofs.Polling
import StationWatch.Proofs.Scheduling

/-!
# The cadence of a job

A run of a job may return or raise something, and before that it may cancel its own job, shut the
scheduler down or wait for its own end.  Whatever its runs do, a job first waits for its initial
delay and then for its period after each run, and it runs as often as it has waits left, up to the
first run that cancels it.  A job that was cancelled before it began only waits once.

However often a job is cancelled, and wherever, only one cancellation can be told that it was the
first, and nothing takes it back.

## Main definitions

* `Conduct`, `Acting` — what a run does, and what the runs of a job do one after another.
* `Timed.act` — the callback that does so.
* `runsOf` — how often a job runs.
* `Timed.Holds`, `Timed.Went` — what is known of a job at work, and what a part of its work leaves.
* `Timed.Settles` — what cancellations can be told.

## Main results

* `Timed.Holds.turn` — a run and the wait after it.
* `Timed.Holds.rounds`, `Timed.body_acting` — the runs of a job, and its whole work.
* `Timed.settles_join` — the answers to cancellations within the work of a job.
* `job_keeps_its_cadence` — how a job works, and what those who cancel it are told.

## References

`SPEC_FULL.md`, section 5, on the delay between runs.
-/

namespace StationWatch

/-! ### What runs do -/

/-- What a run can do to its own job. -/
inductive Deed
  | cancel
  | shutdown
  | join (patience : Option Float)
  deriving Repr, Inhabited

/-- Whether a deed cancels the job; the scheduler cancels what it keeps. -/
def Deed.cancels (kept : Bool) : Deed → Bool
  | .cancel => true
  | .shutdown => kept
  | .join _ => false

/-- What a run does, one deed after another, and whether it raises something in the end. -/
structure Conduct where
  deeds : List Deed
  raises : Bool
  deriving Repr, Inhabited

/-- Whether a run cancels its job. -/
def Conduct.cancels (kept : Bool) (conduct : Conduct) : Bool :=
  conduct.deeds.any (Deed.cancels kept)

/-- What the runs of a job do, and what cancellations of it were told. -/
structure Acting where
  /-- The runs to come, the next one first. -/
  conducts : Nat → Conduct
  /-- For each cancellation so far whether it was the first, the last one first. -/
  answers : List Bool

namespace Timed

/-- A cancellation, which is told whether it was the first. -/
def cancelJob (number : Nat) (w : Timed Acting) : Timed Acting :=
  let (table, first) := w.table.cancel number
  { w with table }.update fun acting => { acting with answers := first :: acting.answers }

/-- A deed of the job that is running. -/
def deed (number : Nat) (w : Timed Acting) : Deed → Timed Acting
  | .cancel => w.cancelJob number
  | .shutdown => w.retime Timetable.shutdown
  | .join patience => w.join id number 0 patience

/-- The next run of a job, and whether it raises something. -/
def act (number : Nat) (w : Timed Acting) : Bool × Timed Acting :=
  let conduct := w.inner.conducts 0
  let w := w.update fun acting => { acting with conducts := fun i => acting.conducts (1 + i) }
  (conduct.raises, conduct.deeds.foldl (deed number) (w.note (.called number "")))

end Timed

/-! ### How often a job runs -/

/-- How often a job runs that has so many waits left: once for each of them, up to the first run
that cancels it. -/
def runsOf (cancels : Nat → Bool) (waits : Nat) : Nat :=
  min waits ((List.range waits).findIdx cancels + 1)

theorem runsOf_zero (cancels : Nat → Bool) : runsOf cancels 0 = 0 := Nat.zero_min _

/-- A job with one wait left runs once. -/
theorem runsOf_one (cancels : Nat → Bool) : runsOf cancels 1 = 1 := Nat.min_eq_left (by omega)

/-- A run that cancels the job is the last one. -/
theorem runsOf_of_cancels {cancels : Nat → Bool} (h : cancels 0 = true) (waits : Nat) :
    runsOf cancels (waits + 1) = 1 := by
  rw [runsOf, List.range_succ_eq_map, List.findIdx_cons, h]
  simp

/-- After any other one the job goes on with one wait less. -/
theorem runsOf_of_not_cancels {cancels : Nat → Bool} (h : cancels 0 = false) (waits : Nat) :
    runsOf cancels (waits + 1) = 1 + runsOf (fun i => cancels (1 + i)) waits := by
  have hshift : (fun i => cancels (1 + i)) = cancels ∘ Nat.succ := by
    funext i
    rw [Nat.add_comm]
    rfl
  rw [runsOf, runsOf, List.range_succ_eq_map, List.findIdx_cons, h, List.findIdx_map, hshift]
  simp only [cond_false]
  omega

/-! ### The beats of a journal -/

/-- What the cadence of a job is made of. -/
inductive Beat
  | waited (seconds : Float)
  | called
  deriving Repr, Inhabited

/-- The beat of an entry, if it is one. -/
def Event.beat? : Event → Option Beat
  | .wait seconds => some (.waited seconds)
  | .called _ _ => some .called
  | _ => none

/-- The waits and the runs of jobs, in order. -/
def Journal.beats (journal : Journal) : List Beat := journal.reverse.filterMap Event.beat?

theorem Journal.beats_append (later news : Journal) :
    beats (later ++ news) = news.beats ++ later.beats := by simp [beats]

/-! ### Cancelled jobs -/

namespace Timetable

theorem jobs_cancel (t : Timetable) (number other : Nat) :
    (t.cancel other).1.jobs[number]? = (t.jobs[number]?).map fun job =>
      { job with cancelled := job.cancelled || decide (number = other) } := by
  show (t.jobs.modify other _)[number]? = _
  rw [List.getElem?_modify]
  by_cases h : other = number
  · simp [h]
  · simp [h, Ne.symm h]

theorem jobs_foldl_cancel (numbers : List Nat) (t : Timetable) (number : Nat) :
    (numbers.foldl (fun t other => (t.cancel other).1) t).jobs[number]? =
      (t.jobs[number]?).map fun job =>
        { job with cancelled := job.cancelled || decide (number ∈ numbers) } := by
  induction numbers generalizing t with
  | nil => simp
  | cons other rest ih =>
    rw [List.foldl_cons, ih, jobs_cancel, Option.map_map]
    congr 1
    funext job
    simp [Bool.or_assoc]

/-- A shutdown cancels the jobs that the scheduler keeps and leaves all others as they are. -/
theorem jobs_shutdown (t : Timetable) (number : Nat) :
    t.shutdown.jobs[number]? = (t.jobs[number]?).map fun job =>
      { job with cancelled := job.cancelled || decide (number ∈ t.tracked) } :=
  jobs_foldl_cancel t.tracked t number

end Timetable

/-- The wait that finds the job cancelled, or no other wait left, is the last one. -/
theorem Job.afterWait_of_stop {job : Job} (h : job.cancelled = true ∨ job.budget = 0) :
    job.afterWait = (true, { job with cancelled := true }) := by
  cases hcancelled : job.cancelled with
  | true =>
    rw [afterWait, if_pos hcancelled]
    simp [← hcancelled]
  | false =>
    have hlast : job.budget = 0 := by simpa [hcancelled] using h
    rw [afterWait_last hcancelled hlast, ← hlast]

namespace Timed

/-! ### A job at work -/

variable {number : Nat} {kept : Bool} {job : Job} {w w' : Timed Acting}

/-- A job is at work and in this state, and the scheduler keeps it or not unless it is cancelled. -/
structure Holds (number : Nat) (kept : Bool) (job : Job) (w : Timed Acting) : Prop where
  state : w.table.jobs[number]? = some job
  kept : job.cancelled = false → decide (number ∈ w.table.tracked) = kept
  running : w.running = some number

/-- What a part of the work of a job leaves: so many runs were made, and the journal tells of these
runs and of these waits. -/
structure Went (made : Nat) (beats : List Beat) (w w' : Timed Acting) : Prop where
  conducts : w'.inner.conducts = fun i => w.inner.conducts (made + i)
  journal : ∃ news, w'.journal = news ++ w.journal ∧ news.beats = beats

theorem Went.refl (w : Timed Acting) : Went 0 [] w w :=
  ⟨by simp, [], rfl, rfl⟩

theorem Went.trans {made more : Nat} {beats others : List Beat} {w'' : Timed Acting}
    (h : Went made beats w w') (hmore : Went more others w' w'') :
    Went (made + more) (beats ++ others) w w'' where
  conducts := by
    rw [hmore.conducts, h.conducts]
    simp [Nat.add_assoc]
  journal := by
    obtain ⟨news, hnews, hbeats⟩ := h.journal
    obtain ⟨later, hlater, hothers⟩ := hmore.journal
    refine ⟨later ++ news, by rw [hlater, hnews, List.append_assoc], ?_⟩
    rw [Journal.beats_append, hbeats, hothers]

/-- A job does not wait for its own end. -/
theorem join_of_running {σ : Type} {callback : Timed σ → Timed σ} {w : Timed σ} {limit : Nat}
    {patience : Option Float} (h : w.running = some number) :
    join callback number limit patience w = w := by
  unfold join
  cases w.table.jobs[number]? with
  | none => rfl
  | some job => simp [h]

/-- A deed of the running job does no more than cancel it. -/
theorem Holds.deed (h : w.Holds number kept job) (d : Deed) :
    (w.deed number d).Holds number kept { job with cancelled := job.cancelled || d.cancels kept } ∧
      Went 0 [] w (w.deed number d) := by
  cases d with
  | cancel =>
    refine ⟨⟨?_, by simp [Deed.cancels], h.running⟩, by simp [Timed.deed, cancelJob, update],
      [], rfl, rfl⟩
    show (w.table.cancel number).1.jobs[number]? = _
    rw [Timetable.jobs_cancel, h.state]
    simp [Deed.cancels]
  | shutdown =>
    refine ⟨⟨?_, ?_, h.running⟩, by simp [Timed.deed, retime], [], rfl, rfl⟩
    · show w.table.shutdown.jobs[number]? = _
      rw [Timetable.jobs_shutdown, h.state]
      cases hlive : job.cancelled with
      | true => simp [hlive]
      | false => simp [hlive, Deed.cancels, ← h.kept hlive]
    · -- What is still live was not kept, and nothing is kept any longer.
      intro hlive
      rw [Bool.or_eq_false_iff] at hlive
      exact Eq.trans (by simp [Timed.deed, retime, Timetable.shutdown]) hlive.2.symm
  | join patience =>
    have hsame : w.deed number (.join patience) = w := join_of_running h.running
    rw [hsame]
    simp only [Deed.cancels, Bool.or_false]
    exact ⟨h, .refl w⟩

theorem Holds.deeds (h : w.Holds number kept job) (ds : List Deed) :
    (ds.foldl (Timed.deed number) w).Holds number kept
        { job with cancelled := job.cancelled || ds.any (Deed.cancels kept) } ∧
      Went 0 [] w (ds.foldl (Timed.deed number) w) := by
  induction ds generalizing w job with
  | nil =>
    simp only [List.foldl_nil, List.any_nil, Bool.or_false]
    exact ⟨h, .refl w⟩
  | cons d ds ih =>
    obtain ⟨hdone, hwent⟩ := h.deed d
    obtain ⟨hrest, hmore⟩ := ih hdone
    rw [List.foldl_cons, List.any_cons, ← Bool.or_assoc]
    exact ⟨hrest, hwent.trans hmore⟩

/-- What a callback raises is reported, and nothing else comes of it. -/
theorem guarded_eq {σ : Type} (callback : Timed σ → Bool × Timed σ) (w : Timed σ) :
    guarded callback w = if (callback w).1 then
      (callback w).2.log .error .scheduler "Scheduled callback raised" else (callback w).2 := rfl

theorem Went.log {made : Nat} {beats : List Beat} (h : Went made beats w w') (level : Level)
    (source : Source) (message : String) : Went made beats w (w'.log level source message) where
  conducts := h.conducts
  journal := by
    obtain ⟨news, hnews, hbeats⟩ := h.journal
    refine ⟨[.logged ⟨level, source, message⟩] ++ news, ?_, ?_⟩
    · rw [List.append_assoc, ← hnews]
      rfl
    · rw [Journal.beats_append, hbeats]
      exact List.append_nil beats

/-- A run is one call, whether it raises something or not. -/
theorem Holds.act (h : w.Holds number kept job) :
    (guarded (Timed.act number) w).Holds number kept
        { job with cancelled := job.cancelled || (w.inner.conducts 0).cancels kept } ∧
      Went 1 [.called] w (guarded (Timed.act number) w) := by
  let begun : Timed Acting :=
    (w.update fun acting => { acting with conducts := fun i => acting.conducts (1 + i) }).note
      (.called number "")
  have hbegun : begun.Holds number kept job := ⟨h.state, h.kept, h.running⟩
  have hcalled : Went 1 [.called] w begun := ⟨rfl, [_], rfl, rfl⟩
  obtain ⟨hdone, hwent⟩ := hbegun.deeds (w.inner.conducts 0).deeds
  have hran := hcalled.trans hwent
  rw [guarded_eq]
  split
  · exact ⟨⟨hdone.state, hdone.kept, hdone.running⟩, hran.log _ _ _⟩
  · exact ⟨hdone, hran⟩

/-- A wait of a job, as part of its work. -/
theorem Holds.wait (h : w.Holds number kept job) (seconds : Float) :
    (w.wait number seconds).1 = job.afterWait.1 ∧
      (w.wait number seconds).2.Holds number kept job.afterWait.2 ∧
      Went 0 [.waited seconds] w (w.wait number seconds).2 := by
  rw [wait_eq h.state]
  refine ⟨rfl, ⟨?_, ?_, h.running⟩, by simp [retime, note], [_], rfl, rfl⟩
  · show (w.table.modify number _).jobs[number]? = _
    rw [Timetable.jobs_modify, h.state]
    rfl
  · -- A wait takes no cancellation back.
    intro hlive
    apply h.kept
    cases hcancelled : job.cancelled with
    | false => rfl
    | true => simp [Job.afterWait, hcancelled] at hlive

/-- A run of a job and the wait after it. -/
theorem Holds.turn (h : w.Holds number kept job) (hlive : job.cancelled = false)
    (period : Float) :
    let after := ((guarded (Timed.act number) w).retime (·.countRun number)).wait number period
    let counted : Job :=
      { job with cancelled := (w.inner.conducts 0).cancels kept, runs := job.runs + 1 }
    after.1 = counted.afterWait.1 ∧ after.2.Holds number kept counted.afterWait.2 ∧
      Went 1 [.called, .waited period] w after.2 := by
  intro after counted
  obtain ⟨hdone, hwent⟩ := h.act
  rw [hlive, Bool.false_or] at hdone
  have hcounted : ((guarded (Timed.act number) w).retime (·.countRun number)).Holds number kept
      counted := by
    refine ⟨?_, hdone.kept, hdone.running⟩
    show ((guarded (Timed.act number) w).table.modify number _).jobs[number]? = _
    rw [Timetable.jobs_modify, hdone.state]
    rfl
  obtain ⟨hended, hwaited, hbeat⟩ := hcounted.wait period
  have hran : Went 1 [.called] w ((guarded (Timed.act number) w).retime (·.countRun number)) :=
    ⟨hwent.conducts, hwent.journal⟩
  exact ⟨hended, hwaited, hran.trans hbeat⟩

/-- The beats of so many runs, each with the wait after it. -/
def turns (period : Float) (made : Nat) : List Beat :=
  (List.replicate made [.called, .waited period]).flatten

theorem turns_succ (period : Float) (made : Nat) :
    turns period (1 + made) = [.called, .waited period] ++ turns period made := by
  rw [turns, Nat.add_comm, List.replicate_succ, List.flatten_cons]
  rfl

/-- A cancelled job does not run. -/
theorem rounds_of_isCancelled {σ : Type} {callback : Timed σ → Timed σ} {w : Timed σ}
    (h : w.table.isCancelled number = true) (period : Float) (limit : Nat) :
    rounds callback number period limit w = w := by
  cases limit with
  | zero => rfl
  | succ limit => rw [rounds, if_pos h]

/-- If a job is cancelled in the end, a greater bound on its runs makes no difference. -/
theorem rounds_eq_of_le {σ : Type} {callback : Timed σ → Timed σ} {w : Timed σ}
    {period : Float} {limit more : Nat} (hle : limit ≤ more)
    (h : (rounds callback number period limit w).table.isCancelled number = true) :
    rounds callback number period more w = rounds callback number period limit w := by
  induction limit generalizing w more with
  | zero => exact rounds_of_isCancelled h period more
  | succ limit ih =>
    obtain ⟨more, rfl⟩ := Nat.exists_eq_succ_of_ne_zero (Nat.ne_of_gt (Nat.zero_lt_of_lt hle))
    cases hlive : w.table.isCancelled number with
    | true => rw [rounds_of_isCancelled hlive, rounds_of_isCancelled hlive]
    | false =>
      rw [rounds_succ hlive] at h ⊢
      rw [rounds_succ hlive]
      dsimp only at h ⊢
      split at h
      · rename_i hended
        rw [if_pos hended, if_pos hended]
      · rename_i hgoes
        rw [if_neg hgoes, if_neg hgoes]
        exact ih (Nat.le_of_succ_le_succ hle) h

theorem body_eq_of_le {σ : Type} {callback : Timed σ → Timed σ} {w : Timed σ} {limit more : Nat}
    (hle : limit ≤ more)
    (h : (body callback number job limit w).table.isCancelled number = true) :
    body callback number job more w = body callback number job limit w := by
  rw [body_eq] at h ⊢
  rw [body_eq]
  dsimp only at h ⊢
  split at h
  · rename_i hended
    rw [if_pos hended, if_pos hended]
  · rename_i hgoes
    rw [if_neg hgoes, if_neg hgoes, rounds_eq_of_le hle h]

/-- After such a run a job stops. -/
theorem Holds.rounds_of_stop (h : w.Holds number kept job) (hlive : job.cancelled = false)
    (period : Float) (limit : Nat)
    (hstop : (w.inner.conducts 0).cancels kept = true ∨ job.budget = 0) :
    let after := Timed.rounds (guarded (Timed.act number)) number period (limit + 1) w
    after.table.jobs[number]? = some { job with cancelled := true, runs := job.runs + 1 } ∧
      Went 1 (turns period 1) w after := by
  intro after
  obtain ⟨hended, hafter, hwent⟩ := h.turn hlive period
  rw [Job.afterWait_of_stop hstop] at hended hafter
  have hlast : after =
      (((guarded (Timed.act number) w).retime (·.countRun number)).wait number period).2 := by
    refine (rounds_succ (Timetable.isCancelled_of_jobs h.state hlive)).trans ?_
    simp [hended]
  rw [hlast]
  exact ⟨hafter.state, hwent⟩

/-- After its initial delay a job runs as often as it has waits left, up to the first run that
cancels it, and is cancelled in the end. -/
theorem Holds.rounds {left limit : Nat} (h : w.Holds number kept job)
    (hlive : job.cancelled = false) (period : Float) (hleft : job.budget = left)
    (hlimit : left < limit) :
    let made := runsOf (fun i => (w.inner.conducts i).cancels kept) (left + 1)
    let after := Timed.rounds (guarded (Timed.act number)) number period limit w
    after.table.jobs[number]? = some
        { job with cancelled := true, runs := job.runs + made, budget := job.budget + 1 - made } ∧
      Went made (turns period made) w after := by
  -- Each run that does not cancel the job leaves one wait less.
  induction left generalizing w job limit with
  | zero =>
    intro made after
    obtain ⟨limit, rfl⟩ := Nat.exists_eq_succ_of_ne_zero (Nat.ne_of_gt hlimit)
    have hmade : made = 1 := runsOf_one _
    rw [hmade]
    exact h.rounds_of_stop hlive period limit (.inr hleft)
  | succ left ih =>
    intro made after
    obtain ⟨limit, rfl⟩ := Nat.exists_eq_succ_of_ne_zero (Nat.ne_of_gt (Nat.zero_lt_of_lt hlimit))
    cases hcancels : (w.inner.conducts 0).cancels kept with
    | true =>
      have hmade : made = 1 := runsOf_of_cancels hcancels _
      rw [hmade]
      exact h.rounds_of_stop hlive period limit (.inl hcancels)
    | false =>
      obtain ⟨hended, hafter, hwent⟩ := h.turn hlive period
      rw [hcancels, @Job.afterWait_more { job with cancelled := false, runs := job.runs + 1 } left
        rfl hleft] at hended hafter
      have hnext : after = Timed.rounds (guarded (Timed.act number)) number period limit
          (((guarded (Timed.act number) w).retime (·.countRun number)).wait number period).2 := by
        refine (rounds_succ (Timetable.isCancelled_of_jobs h.state hlive)).trans ?_
        simp [hended]
      obtain ⟨hstate, hmore⟩ := ih hafter rfl rfl (Nat.lt_of_succ_lt_succ hlimit)
      rw [hwent.conducts] at hstate hmore
      let others := runsOf (fun i => (w.inner.conducts (1 + i)).cancels kept) (left + 1)
      have hmade : made = 1 + others := runsOf_of_not_cancels hcancels _
      have hruns : job.runs + (1 + others) = job.runs + 1 + others := by omega
      have hbudget : left + 1 + 1 - (1 + others) = left + 1 - others := by omega
      rw [hnext, hmade, turns_succ, hleft, hruns, hbudget]
      exact ⟨hstate, hwent.trans hmore⟩

/-- A job begins its work with the wait for its first run. -/
theorem Holds.first_wait (hjob : w.table.jobs[number]? = some job) :
    let waited := ({ w with running := some number } : Timed Acting).wait number job.initialDelay
    waited.1 = job.afterWait.1 ∧
      waited.2.Holds number (decide (number ∈ w.table.tracked)) job.afterWait.2 ∧
      Went 0 [.waited job.initialDelay] w waited.2 := by
  have hentered : Holds number (decide (number ∈ w.table.tracked)) job
      { w with running := some number } := ⟨hjob, fun _ => rfl, rfl⟩
  have hbegun : Went 0 [] w { w with running := some number } := ⟨by simp, [], rfl, rfl⟩
  obtain ⟨hended, hwaited, hwent⟩ := hentered.wait job.initialDelay
  exact ⟨hended, hwaited, hbegun.trans hwent⟩

/-- For a job that is cancelled or has no waits left the initial delay is the only wait. -/
theorem body_of_stop (hjob : w.table.jobs[number]? = some job)
    (hstop : job.cancelled = true ∨ job.budget = 0) (limit : Nat) :
    let after := body (guarded (act number)) number job limit w
    after.table.jobs[number]? = some { job with cancelled := true } ∧
      Went 0 [.waited job.initialDelay] w after ∧ after.running = w.running := by
  intro after
  obtain ⟨hended, hwaited, hwent⟩ := Holds.first_wait hjob
  rw [Job.afterWait_of_stop hstop] at hended hwaited
  have hlast : after = { (({ w with running := some number } : Timed Acting).wait number
      job.initialDelay).2 with running := w.running } := by
    refine (body_eq _ number job limit w).trans ?_
    simp only [hended, if_true]
  rw [hlast]
  exact ⟨hwaited.state, ⟨hwent.conducts, hwent.journal⟩, rfl⟩

/-- Any other job runs after it. -/
theorem body_of_live {left limit : Nat} (hjob : w.table.jobs[number]? = some job)
    (hlive : job.cancelled = false) (hleft : job.budget = left + 1) (hlimit : left < limit) :
    let kept := decide (number ∈ w.table.tracked)
    let made := runsOf (fun i => (w.inner.conducts i).cancels kept) (left + 1)
    let after := body (guarded (act number)) number job limit w
    after.table.jobs[number]? = some
        { job with cancelled := true, runs := job.runs + made, budget := left + 1 - made } ∧
      Went made (.waited job.initialDelay :: turns job.period made) w after ∧
      after.running = w.running := by
  intro kept made after
  obtain ⟨hended, hwaited, hwent⟩ := Holds.first_wait hjob
  rw [Job.afterWait_more hlive hleft] at hended hwaited
  have hnext : after = { rounds (guarded (act number)) number job.period limit
      (({ w with running := some number } : Timed Acting).wait number job.initialDelay).2 with
        running := w.running } := by
    refine (body_eq _ number job limit w).trans ?_
    simp only [hended, Bool.false_eq_true, if_false]
  obtain ⟨hstate, hran⟩ := hwaited.rounds hlive job.period rfl hlimit
  -- The wait has used up no run.
  have hconducts := hwent.conducts
  simp only [Nat.zero_add] at hconducts
  rw [hconducts] at hstate hran
  have hwhole := hwent.trans hran
  rw [Nat.zero_add] at hwhole
  rw [hnext]
  exact ⟨hstate, ⟨hwhole.conducts, hwhole.journal⟩, rfl⟩

/-- The whole work of a job: it waits for its initial delay, and it runs unless it was cancelled
before it began. -/
theorem body_acting {limit : Nat} (hjob : w.table.jobs[number]? = some job)
    (hlimit : job.budget ≤ limit) :
    let kept := decide (number ∈ w.table.tracked)
    let made := if job.cancelled then 0 else
      runsOf (fun i => (w.inner.conducts i).cancels kept) job.budget
    let after := body (guarded (act number)) number job limit w
    after.table.jobs[number]? = some
        { job with cancelled := true, runs := job.runs + made, budget := job.budget - made } ∧
      Went made (.waited job.initialDelay :: turns job.period made) w after ∧
      after.running = w.running := by
  intro kept made after
  cases hcancelled : job.cancelled with
  | true =>
    have hmade : made = 0 := if_pos hcancelled
    rw [hmade]
    exact body_of_stop hjob (.inl hcancelled) limit
  | false =>
    have hmade : made = runsOf (fun i => (w.inner.conducts i).cancels kept) job.budget :=
      if_neg (by simp [hcancelled])
    rw [hmade]
    cases hbudget : job.budget with
    | zero =>
      have hstopped := body_of_stop hjob (.inr hbudget) limit
      rw [hbudget] at hstopped
      rw [runsOf_zero]
      exact hstopped
    | succ left =>
      rw [hbudget] at hlimit
      exact body_of_live hjob hcancelled hbudget hlimit

/-! ### The answers to cancellations -/

/-- In the meantime no cancellation was taken back, and one was told that it was the first only if
the job was not cancelled before, and then no other one was. -/
def Settles (number : Nat) (w w' : Timed Acting) : Prop :=
  ∃ more, w'.inner.answers = more ++ w.inner.answers ∧
    more.count true + (w.table.isCancelled number).toNat ≤ (w'.table.isCancelled number).toNat

theorem Settles.trans {w'' : Timed Acting} (h : Settles number w w')
    (hlater : Settles number w' w'') : Settles number w w'' := by
  obtain ⟨more, hmore, hcount⟩ := h
  obtain ⟨later, hothers, hrest⟩ := hlater
  refine ⟨later ++ more, by rw [hothers, hmore, List.append_assoc], ?_⟩
  rw [List.count_append]
  omega

/-- Nothing was cancelled by a call that is told. -/
theorem settles_of_tends (htable : w.table.Tends w'.table)
    (hanswers : w'.inner.answers = w.inner.answers) : Settles number w w' := by
  refine ⟨[], hanswers, ?_⟩
  rw [List.count_nil, Nat.zero_add]
  cases hcancelled : w.table.isCancelled number with
  | false => exact Nat.zero_le _
  | true => exact Nat.le_of_eq (by rw [htable.cancelled number hcancelled])

theorem settles_cancelJob (w : Timed Acting) : Settles number w (w.cancelJob number) := by
  refine ⟨[!w.table.isCancelled number], rfl, ?_⟩
  have hafter : (w.cancelJob number).table.isCancelled number = true := by
    show (w.table.cancel number).1.isCancelled number = true
    rw [Timetable.isCancelled_cancel]
    simp
  rw [hafter]
  cases w.table.isCancelled number <;> decide

theorem settles_shutdown (w : Timed Acting) : Settles number w (w.retime Timetable.shutdown) :=
  settles_of_tends (Timetable.tends_shutdown w.table) rfl

/-- What callbacks settle, a job from its start to its end settles. -/
theorem settles_join {callback : Timed Acting → Timed Acting}
    (hcallback : ∀ w, Settles number w (callback w)) (limit : Nat) (patience : Option Float)
    (w : Timed Acting) : Settles number w (join callback number limit patience w) := by
  refine @join_preserves _ w (Settles number w) callback ?_ ?_ number limit patience
    (settles_of_tends (.refl _) rfl)
  · intro w' h
    exact h.trans (hcallback w')
  · intro w' w'' h hproceeds
    exact h.trans (settles_of_tends hproceeds.table (congrArg Acting.answers hproceeds.inner))

theorem settles_deed (w : Timed Acting) (d : Deed) : Settles number w (w.deed number d) := by
  cases d with
  | cancel => exact settles_cancelJob w
  | shutdown => exact settles_shutdown w
  | join patience => exact settles_join (fun w => settles_of_tends (.refl _) rfl) 0 patience w

theorem settles_act (w : Timed Acting) : Settles number w (guarded (act number) w) := by
  have hdeeds (ds : List Deed) (w : Timed Acting) :
      Settles number w (ds.foldl (deed number) w) := by
    induction ds generalizing w with
    | nil => exact settles_of_tends (.refl _) rfl
    | cons d ds ih => exact (settles_deed w d).trans (ih _)
  have hran : Settles number w (act number w).2 :=
    Settles.trans (settles_of_tends (.refl _) rfl) (hdeeds _ _)
  rw [guarded_eq]
  split
  · exact hran.trans (settles_of_tends (.refl _) rfl)
  · exact hran

/-- What can be done to a job from outside. -/
inductive Call
  | cancel
  | shutdown
  | start
  /-- Its thread is given so many waits and works until it ends. -/
  | work (waits : Nat)
  deriving Repr, Inhabited

/-- A call from outside. -/
def call (number : Nat) (w : Timed Acting) : Call → Timed Acting
  | .cancel => w.cancelJob number
  | .shutdown => w.retime Timetable.shutdown
  | .start => w.retime (·.start number)
  | .work waits =>
    (w.retime (·.grant number waits)).join (guarded (act number)) number (waits + 1) none

theorem settles_call (w : Timed Acting) (c : Call) : Settles number w (w.call number c) := by
  cases c with
  | cancel => exact settles_cancelJob w
  | shutdown => exact settles_shutdown w
  | start => exact settles_of_tends (Timetable.tends_modify fun _ _ hjob => hjob) rfl
  | work waits =>
    have hgranted : Settles number w (w.retime (·.grant number waits)) :=
      settles_of_tends (Timetable.tends_modify fun _ _ hjob => hjob) rfl
    exact hgranted.trans (settles_join settles_act _ _ _)

theorem settles_calls (calls : List Call) (w : Timed Acting) :
    Settles number w (calls.foldl (call number) w) := by
  induction calls generalizing w with
  | nil => exact settles_of_tends (.refl _) rfl
  | cons c calls ih => exact (settles_call w c).trans (ih _)

end Timed

/-- **A job keeps its cadence.**  A job is made with any initial delay and any period that is not
zero or less.  Whatever its runs do, its work ends, and no greater bound on its runs would change
it: the job waits for the initial delay, which is at least zero, and then for the period after each
run.  It runs as often as it has waits left, up to the first run that cancels it, and not at all if
it was cancelled before; that many runs are counted, and it is cancelled in the end.  Of all
cancellations, from outside and from within its runs, at most one is told that it was the first,
none if the job was cancelled before, and no cancellation is taken back. -/
theorem job_keeps_its_cadence :
    (∀ initialDelay period : Float, ¬ period ≤ 0.0 →
      ∃ job, Job.create initialDelay period = .ok job ∧
      ∀ (number waits : Nat) (cancelled : Bool) (w : Timed Acting),
        let begun : Job := { job with alive := true, cancelled, budget := waits }
        let kept := decide (number ∈ w.table.tracked)
        let made := if cancelled then 0 else
          runsOf (fun i => (w.inner.conducts i).cancels kept) waits
        let work := fun limit => Timed.body (.guarded (Timed.act number)) number begun limit w
        w.table.jobs[number]? = some begun →
        (∀ limit, waits ≤ limit → work limit = work waits) ∧
          (work waits).table.jobs[number]? =
            some { begun with cancelled := true, runs := made, budget := waits - made } ∧
          (work waits).inner.conducts = (fun i => w.inner.conducts (made + i)) ∧
          (work waits).running = w.running ∧
          ∃ news, (work waits).journal = news ++ w.journal ∧
            news.beats = .waited (if 0.0 < initialDelay then initialDelay else 0.0) ::
              (List.replicate made [.called, .waited period]).flatten) ∧
    ∀ (number : Nat) (calls : List Timed.Call) (w : Timed Acting),
      let after := calls.foldl (Timed.call number) w
      ∃ answers, after.inner.answers = answers ++ w.inner.answers ∧ answers.count true ≤ 1 ∧
        (w.table.isCancelled number = true →
          answers.count true = 0 ∧ after.table.isCancelled number = true) := by
  constructor
  · intro initialDelay period hperiod
    refine ⟨_, if_neg hperiod, ?_⟩
    intro number waits cancelled w begun kept made work hjob
    obtain ⟨hstate, hwent, hrunning⟩ := Timed.body_acting hjob (Nat.le_refl waits)
    rw [Nat.zero_add] at hstate
    refine ⟨?_, hstate, hwent.conducts, hrunning, hwent.journal⟩
    intro limit hlimit
    apply Timed.body_eq_of_le hlimit
    rw [Timetable.isCancelled, hstate]
    rfl
  · intro number calls w after
    obtain ⟨answers, hanswers, hcount⟩ := @Timed.settles_calls number calls w
    have hlast := Bool.toNat_le (after.table.isCancelled number)
    change _ ≤ (after.table.isCancelled number).toNat at hcount
    refine ⟨answers, hanswers, by omega, ?_⟩
    intro hcancelled
    rw [hcancelled, Bool.toNat_true] at hcount
    constructor
    · omega
    · cases hafter : after.table.isCancelled number with
      | true => rfl
      | false =>
        rw [hafter, Bool.toNat_false] at hcount
        omega

/-- Runs of which the second one raises something, and the third one waits for its own end, shuts
the scheduler down, cancels its job and then raises something. -/
def troubled : Nat → Conduct
  | 1 => ⟨[], true⟩
  | 2 => ⟨[.join none, .shutdown, .cancel], true⟩
  | _ => ⟨[], false⟩

/-- A job with these runs, which the scheduler keeps, and which has five waits left. -/
def troubledJob : Timed Acting :=
  ((Timed.start ⟨troubled, []⟩).retime (·.scheduled 5.0 60.0)).retime (·.grant 0 5)

/-- Its third run is the last one. -/
theorem third_run_is_last : ∃ (job : Job) (after : Timed Acting) (news : Journal),
    ¬ (60.0 : Float) ≤ 0.0 ∧ troubledJob.table.jobs[0]? = some job ∧
    after = Timed.body (.guarded (Timed.act 0)) 0 job 5 troubledJob ∧
    after.table.jobs[0]? = some { job with cancelled := true, runs := 3, budget := 2 } ∧
    after.journal = news ++ troubledJob.journal ∧
    news.beats = [.waited 5.0, .called, .waited 60.0, .called, .waited 60.0, .called,
      .waited 60.0] := by
  have hperiod : ¬ (60.0 : Float) ≤ 0.0 := by decide +kernel
  obtain ⟨job, hcreate, hwork⟩ := job_keeps_its_cadence.1 5.0 60.0 hperiod
  have hmade : Job.create 5.0 60.0 = .ok ⟨5.0, 60.0, false, false, 0, 0⟩ := rfl
  rw [hmade] at hcreate
  cases hcreate
  have hjob : troubledJob.table.jobs[0]? = some ⟨5.0, 60.0, false, true, 0, 5⟩ := rfl
  obtain ⟨-, hstate, -, -, news, hjournal, hbeats⟩ := hwork 0 5 false troubledJob hjob
  exact ⟨_, _, news, hperiod, hjob, rfl, hstate, hjournal, hbeats⟩

end StationWatch
