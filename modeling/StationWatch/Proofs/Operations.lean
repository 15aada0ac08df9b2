import StationWatch.Proofs.Life

/-!
# What operations do

The operations that change lifetimes and jobs, described by equations, so that no later proof needs
to unfold them.  An activation begins a lifetime and perhaps starts a job, or is refused; a disposal
ends the lifetime and cancels the job.  Whatever else they put into the journal is told in the log.

## Main definitions

* `Timetable.withJob` — a timetable with a new job.
* `Watch.begun` — a lifetime begun, and reported.
* `Watch.refused` — an activation refused.

## Main results

* `Timetable.schedule_eq` — what the scheduler does if it accepts the period of a job.
* `Watch.startJob_cases` — when a job is started.
* `Watch.activate_of_error`, `Watch.activate_of_ok`, `Watch.activate_cases` — what an activation
  does.
* `Watch.inner_dispose`, `Watch.table_dispose`, `Watch.logs_dispose` — what a disposal does.
-/

namespace StationWatch

/-! ### Lifetimes -/

namespace Handler

variable (h : Handler)

@[simp] theorem length_endLifetime : h.endLifetime.lifetimes.length = h.lifetimes.length := by
  simp [endLifetime]

@[simp] theorem length_beginLifetime (p : ReferencePoint) :
    (h.beginLifetime p).lifetimes.length = h.lifetimes.length + 1 := by
  simp [beginLifetime]

@[simp] theorem length_enter (number : Nat) (phase : Phase) :
    (h.enter number phase).lifetimes.length = h.lifetimes.length := by
  simp [enter]

end Handler

/-! ### Scheduling -/

/-- A job that waits for its first run. -/
def Job.started (initialDelay period : Float) : Job :=
  { initialDelay := if 0.0 < initialDelay then initialDelay else 0.0
    period, cancelled := false, alive := true, runs := 0, budget := 0 }

namespace Timetable

/-- A job more, which waits for its first run; the scheduler keeps it beside those that are not
cancelled. -/
def withJob (t : Timetable) (initialDelay period : Float) : Timetable :=
  ⟨t.jobs ++ [.started initialDelay period],
    (t.tracked.filter fun number => !t.isCancelled number) ++ [t.jobs.length]⟩

/-- What the scheduler does if it accepts the period: the new job comes last. -/
theorem schedule_eq (t : Timetable) (initialDelay : Float) {period : Float}
    (h : ¬ period ≤ 0.0) :
    t.schedule initialDelay period = .ok (t.withJob initialDelay period, t.jobs.length) := by
  have hstart (job : Job) (f : Job → Job) :
      (t.jobs ++ [job]).modify t.jobs.length f = t.jobs ++ [f job] :=
    List.modifyTailIdx_add (List.modifyHead f) 0 t.jobs [job]
  simp only [schedule, Job.create, if_neg h, add, start, modify, hstart]
  rfl

/-- What the scheduler does if it does not. -/
theorem schedule_eq_error (t : Timetable) (initialDelay : Float) {period : Float}
    (h : period ≤ 0.0) : t.schedule initialDelay period = .error ⟨period⟩ := by
  simp only [schedule, Job.create, if_pos h]

theorem isCancelled_append (t : Timetable) (job : Job) (tracked : List Nat) (number : Nat) :
    isCancelled ⟨t.jobs ++ [job], tracked⟩ number =
      if number = t.jobs.length then job.cancelled else t.isCancelled number := by
  unfold isCancelled
  rw [List.getElem?_append]
  by_cases hlt : number < t.jobs.length
  · rw [if_pos hlt, if_neg (by omega)]
  · by_cases hnew : number = t.jobs.length
    · simp [hnew]
    · have hfurther : number - t.jobs.length ≠ 0 := by omega
      simp [hlt, hnew, hfurther]

/-- A new job is live, and the others are as they were. -/
theorem isCancelled_withJob (t : Timetable) (initialDelay period : Float) (number : Nat) :
    (t.withJob initialDelay period).isCancelled number =
      if number = t.jobs.length then false else t.isCancelled number := by
  rw [withJob, isCancelled_append]
  rfl

end Timetable

/-! ### Activations and disposals -/

namespace Watch

/-- A lifetime begun at a place, and reported. -/
def begun (w : Watch) (p : ReferencePoint) : Watch :=
  ((w.update (·.beginLifetime p)).note (.reached (.activated w.inner.lifetimes.length))).note
    (.announced (.status .online))

/-- An activation refused for want of a place. -/
def refused (w : Watch) (fault : LocationFault) : Watch :=
  ((w.log .debug .handler ("Geo location is mandatory and has to be set, disabling handler: " ++
    fault.message)).note (.reached (.refused fault))).note
      (.announced (.status (.offline (some .configurationError))))

variable {w : Watch}

theorem activate_of_ok {p : ReferencePoint} (h : ReferencePoint.parse w.inner.settings.location =
    .ok p) (schedule : Bool) :
    w.activate schedule = (none, if schedule then startJob (w.begun p) else w.begun p) := by
  have hnumber : (w.update (·.beginLifetime p)).inner.lifetimes.length - 1 =
      w.inner.lifetimes.length := by simp [Timed.update]
  simp only [activate, h, hnumber, begun]

theorem activate_of_error {fault : LocationFault}
    (h : ReferencePoint.parse w.inner.settings.location = .error fault) (schedule : Bool) :
    w.activate schedule = (some (.configFailure fault), w.refused fault) := by
  simp only [activate, h]
  rfl

/-- A job is at work, or one is started, or the scheduler refuses its period. -/
theorem startJob_cases (w : Watch) :
    ((∃ number, w.inner.refreshJob = some number ∧ w.table.isCancelled number = false) ∧
        startJob w = w) ∨
      (∀ number, w.inner.refreshJob = some number → w.table.isCancelled number = true) ∧
        ((Decimal.ofInt w.inner.refreshInterval ≤ 0.0 ∧
            ∃ entry, startJob w = w.note (.logged entry)) ∨
          ¬ Decimal.ofInt w.inner.refreshInterval ≤ 0.0 ∧ ∃ before after, startJob w =
            { table := w.table.withJob 0.0 (Decimal.ofInt w.inner.refreshInterval)
              running := w.running
              journal := .logged after :: .logged before :: w.journal
              inner := { w.inner with refreshJob := some w.table.jobs.length } }) := by
  unfold startJob
  by_cases hneeded : w.inner.refreshJob.elim true w.table.isCancelled = true
  · refine .inr ⟨fun number hjob => by simpa [hjob] using hneeded, ?_⟩
    rw [if_pos hneeded]
    by_cases hperiod : Decimal.ofInt w.inner.refreshInterval ≤ 0.0
    · refine .inl ⟨hperiod, ?_⟩
      have hschedule := w.table.schedule_eq_error 0.0 hperiod
      simp only [Timed.log, Timed.note, hschedule]
      exact ⟨_, rfl⟩
    · refine .inr ⟨hperiod, ?_⟩
      have hschedule := w.table.schedule_eq 0.0 hperiod
      simp only [Timed.log, Timed.note, hschedule]
      exact ⟨_, _, rfl⟩
  · refine .inl ⟨?_, if_neg hneeded⟩
    cases hjob : w.inner.refreshJob with
    | none => simp [hjob] at hneeded
    | some number => exact ⟨number, rfl, by simpa [hjob] using hneeded⟩

/-- Starting a job is told in the log only. -/
theorem journal_startJob (w : Watch) :
    ∃ lines : List LogEntry, (startJob w).journal = lines.map .logged ++ w.journal := by
  rcases startJob_cases w with
    ⟨-, heq⟩ | ⟨-, ⟨-, entry, heq⟩ | ⟨-, before, after, heq⟩⟩
  · exact ⟨[], by rw [heq]; rfl⟩
  · exact ⟨[entry], by rw [heq]; rfl⟩
  · exact ⟨[after, before], by rw [heq]; rfl⟩

/-- A started job changes the handler only in what its refresh job is. -/
theorem inner_startJob (w : Watch) :
    ∃ refreshJob, (startJob w).inner = { w.inner with refreshJob } := by
  rcases startJob_cases w with
    ⟨-, heq⟩ | ⟨-, ⟨-, entry, heq⟩ | ⟨-, before, after, heq⟩⟩
  · exact ⟨_, by rw [heq]⟩
  · exact ⟨_, by rw [heq]; rfl⟩
  · exact ⟨_, by rw [heq]⟩

/-- An activation is refused, or a lifetime is begun and perhaps a job started. -/
theorem activate_cases (w : Watch) (schedule : Bool) :
    (∃ fault, (w.activate schedule).2 = w.refused fault) ∨
      ∃ p news refreshJob, (w.activate schedule).2.journal = news ++ (w.begun p).journal ∧
        (∀ event ∈ news, event.isQuiet = true) ∧
          (w.activate schedule).2.inner = { (w.begun p).inner with refreshJob } := by
  cases hparse : ReferencePoint.parse w.inner.settings.location with
  | error fault =>
    rw [activate_of_error hparse]
    exact .inl ⟨fault, rfl⟩
  | ok p =>
    rw [activate_of_ok hparse]
    cases schedule with
    | false => exact .inr ⟨p, [], _, rfl, by simp, rfl⟩
    | true =>
      obtain ⟨lines, hjournal⟩ := journal_startJob (w.begun p)
      obtain ⟨refreshJob, hinner⟩ := inner_startJob (w.begun p)
      refine .inr ⟨p, _, refreshJob, hjournal, ?_, hinner⟩
      exact List.forall_mem_map.2 fun line _ => rfl

theorem inner_stopJob (w : Watch) : (stopJob w).inner = { w.inner with refreshJob := none } := by
  unfold stopJob
  split
  · rename_i hjob
    rw [← hjob]
  · dsimp only
    split <;> rfl

theorem table_stopJob (w : Watch) : (stopJob w).table =
    w.inner.refreshJob.elim w.table fun number => (w.table.cancel number).1 := by
  unfold stopJob
  split
  · rename_i hjob
    rw [hjob]
    rfl
  · rename_i number hjob
    rw [hjob]
    dsimp only
    split <;> rfl

theorem journal_stopJob (w : Watch) :
    ∃ lines : List LogEntry, (stopJob w).journal = lines.map .logged ++ w.journal := by
  unfold stopJob
  split
  · exact ⟨[], rfl⟩
  · dsimp only
    split
    · exact ⟨[_], rfl⟩
    · exact ⟨[], rfl⟩

theorem inner_dispose (w : Watch) :
    w.dispose.inner = { w.inner.endLifetime with refreshJob := none, cycle := none } := by
  change { (stopJob _).inner with cycle := none } = _
  rw [inner_stopJob]
  rfl

theorem table_dispose (w : Watch) : w.dispose.table =
    w.inner.refreshJob.elim w.table fun number => (w.table.cancel number).1 :=
  table_stopJob _

/-- Beside its milestone a disposal is told in the log only. -/
theorem logs_dispose (w : Watch) : ∃ (lines : List LogEntry) (entry : LogEntry),
    w.dispose.journal = lines.map .logged ++ .reached .disposed :: .logged entry :: w.journal := by
  obtain ⟨lines, hjournal⟩ := journal_stopJob
    (((w.log .debug .handler "Dispose weather handler.").update Handler.endLifetime).note
      (.reached .disposed))
  exact ⟨lines, _, hjournal⟩

theorem journal_dispose (w : Watch) : ∃ news entry, w.dispose.journal =
    news ++ .reached .disposed :: .logged entry :: w.journal ∧
      ∀ event ∈ news, event.isQuiet = true := by
  obtain ⟨lines, entry, hjournal⟩ := w.logs_dispose
  refine ⟨lines.map .logged, entry, hjournal, fun event hevent => ?_⟩
  obtain ⟨line, -, rfl⟩ := List.mem_map.1 hevent
  rfl

end Watch

end StationWatch
