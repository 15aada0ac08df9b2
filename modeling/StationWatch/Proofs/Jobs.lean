import StationWatch.Proofs.Address
import StationWatch.Proofs.Onward
import StationWatch.Proofs.WholeDoubles

/-!
# At most one refresh job

Jobs can be cancelled behind the back of a handler, and a handler can be activated again and again,
with a job and without.  Still at most one of all the jobs that it ever scheduled is live, that is,
not cancelled, and this one is its refresh job: an activation starts a job only if there is none or
the one there is was cancelled, and nothing but a disposal forgets a refresh job, which it cancels.

## Main definitions

* `Timetable.live` — the jobs that are not cancelled.
* `Watch.SoleJob` — only the refresh job can be live.
* `Watch.OneJob` — what holds of the jobs at every moment of a life.

## Main results

* `Life.soleJob` — only the refresh job can be live, at every moment of a life.
* `jobs_never_compete` — at most one job is live.

## References

`SPEC_FULL.md`, section 10.5, on the only live job.
-/

namespace StationWatch

/-! ### Live jobs -/

namespace Timetable

/-- The numbers of the jobs that are not cancelled, ascending. -/
def live (t : Timetable) : List Nat :=
  (List.range t.jobs.length).filter fun number => !t.isCancelled number

theorem mem_live_iff {t : Timetable} {number : Nat} :
    number ∈ t.live ↔ t.isCancelled number = false := by
  rw [live, List.mem_filter, List.mem_range, Bool.not_eq_true']
  refine ⟨And.right, fun h => ⟨?_, h⟩⟩
  -- A job that does not exist counts as cancelled.
  by_cases hlt : number < t.jobs.length
  · exact hlt
  · have hnone : t.jobs[number]? = none := List.getElem?_eq_none (Nat.le_of_not_lt hlt)
    simp [isCancelled, hnone] at h

theorem live_eq_nil_iff {t : Timetable} :
    t.live = [] ↔ ∀ number, t.isCancelled number = true := by
  simp only [List.eq_nil_iff_forall_not_mem, mem_live_iff, Bool.not_eq_false]

/-- A job is the only live one. -/
theorem live_eq_singleton {t : Timetable} {number : Nat} (h : t.isCancelled number = false)
    (honly : ∀ other, t.isCancelled other = false → other = number) : t.live = [number] := by
  have hall : t.live = List.replicate t.live.length number :=
    List.eq_replicate_iff.2 ⟨rfl, fun other hother => honly other (mem_live_iff.1 hother)⟩
  have hnodup : t.live.Nodup := List.nodup_range.filter _
  have hpos : 0 < t.live.length := List.length_pos_of_mem (mem_live_iff.2 h)
  rw [hall, List.nodup_replicate] at hnodup
  have hone : t.live.length = 1 := by omega
  rw [hall, hone]
  rfl

theorem tends_shutdown (t : Timetable) : Tends t t.shutdown := by
  have hcancelled (numbers : List Nat) (t : Timetable) :
      Tends t (numbers.foldl (fun t number => (t.cancel number).1) t) := by
    induction numbers generalizing t with
    | nil => exact .refl t
    | cons number rest ih => exact (tends_cancel t number).trans (ih _)
  exact ⟨(hcancelled t.tracked t).length, (hcancelled t.tracked t).cancelled⟩

end Timetable

namespace Watch

variable {w w' : Watch}

/-- Only the refresh job can be live. -/
def SoleJob (w : Watch) : Prop :=
  ∀ number, w.table.isCancelled number = false → w.inner.refreshJob = some number

/-- A live job is the only one. -/
theorem SoleJob.live_eq (h : SoleJob w) {number : Nat}
    (hlive : w.table.isCancelled number = false) :
    w.table.live = [number] ∧ w.inner.refreshJob = some number := by
  have hjob := h number hlive
  refine ⟨Timetable.live_eq_singleton hlive fun other hother => ?_, hjob⟩
  rw [h other hother, Option.some.injEq] at hjob
  exact hjob

/-- The same refresh job, and no job that was not live before. -/
theorem SoleJob.of_tends (h : SoleJob w) (htable : w.table.Tends w'.table)
    (hjob : w'.inner.refreshJob = w.inner.refreshJob) : SoleJob w' := by
  intro number hlive
  rw [hjob]
  exact h number (htable.live hlive)

theorem SoleJob.startJob (h : SoleJob w) : SoleJob (startJob w) := by
  rcases startJob_cases w with
    ⟨-, heq⟩ | ⟨hnone, ⟨-, entry, heq⟩ | ⟨-, before, after, heq⟩⟩
  · rwa [heq]
  · rw [heq]
    exact h
  · -- A new job is started only when no other one is live.
    rw [heq]
    intro number hlive
    rw [Timetable.isCancelled_withJob] at hlive
    by_cases hnew : number = w.table.jobs.length
    · rw [hnew]
    · rw [if_neg hnew] at hlive
      rw [hnone number (h number hlive)] at hlive
      cases hlive

/-- A job is started if the scheduler accepts its period, unless one is at work; in both cases one
job is live. -/
theorem SoleJob.live_startJob (h : SoleJob w) (hinterval : 0 < w.inner.refreshInterval) :
    ∃ number, (Watch.startJob w).table.live = [number] ∧
      (Watch.startJob w).inner.refreshJob = some number := by
  obtain ⟨number, hlive⟩ : ∃ number,
      (Watch.startJob w).table.isCancelled number = false := by
    rcases startJob_cases w with ⟨⟨number, -, hlive⟩, heq⟩ |
      ⟨-, ⟨hperiod, -⟩ | ⟨-, before, after, heq⟩⟩
    · rw [heq]
      exact ⟨number, hlive⟩
    · exact absurd hperiod (Doubles.not_ofInt_le_zero hinterval)
    · rw [heq]
      exact ⟨w.table.jobs.length, by rw [Timetable.isCancelled_withJob, if_pos rfl]⟩
  exact ⟨number, h.startJob.live_eq hlive⟩

theorem SoleJob.activate (h : SoleJob w) (schedule : Bool) : SoleJob (w.activate schedule).2 := by
  cases hparse : ReferencePoint.parse w.inner.settings.location with
  | error fault =>
    rw [activate_of_error hparse]
    exact h
  | ok p =>
    rw [activate_of_ok hparse]
    cases schedule with
    | false => exact h
    | true => exact SoleJob.startJob (w := w.begun p) h

/-- A job that is not the refresh job is cancelled. -/
theorem SoleJob.isCancelled_of_ne (h : SoleJob w) {number : Nat}
    (hne : w.inner.refreshJob ≠ some number) : w.table.isCancelled number = true := by
  cases hlive : w.table.isCancelled number with
  | true => rfl
  | false => exact absurd (h number hlive) hne

/-- A disposal cancels the only job that can be live. -/
theorem SoleJob.isCancelled_dispose (h : SoleJob w) (number : Nat) :
    w.dispose.table.isCancelled number = true := by
  rw [table_dispose]
  cases hjob : w.inner.refreshJob with
  | none => exact h.isCancelled_of_ne (by simp [hjob])
  | some current =>
    rw [Option.elim_some, Timetable.cancel, Timetable.isCancelled_modify]
    by_cases heq : current = number
    · rw [if_pos heq]
      cases w.table.jobs[current]? <;> rfl
    · rw [if_neg heq]
      exact h.isCancelled_of_ne (by simpa [hjob] using heq)

theorem SoleJob.dispose (h : SoleJob w) : SoleJob w.dispose := by
  intro number hlive
  rw [h.isCancelled_dispose number] at hlive
  cases hlive

end Watch

theorem Life.soleJob {w : Watch} {flights : List Flight} (h : Life w flights) : w.SoleJob := by
  induction h with
  | start bridge settings registry sink =>
    intro number hlive
    simp [Timed.start, Timetable.empty, Timetable.isCancelled] at hlive
  | aside h haside ih => exact ih.of_tends haside.table haside.refreshJob
  | activate h schedule ih => exact ih.activate schedule
  | dispose h ih => exact ih.dispose
  | refresh h hcycle hactive hfree hlifetime ih => exact ih
  | rerun h hlifetime ih => exact ih
  | @act w flights number guarded effect rest h ih => cases effect <;> exact ih
  | ask h reply ih => exact ih
  | @conclude w flights number guarded outcome h ih =>
    have hconcluded : (w.conclude number outcome).2.SoleJob := by
      refine ih.of_tends ?_ ?_
      · rw [Watch.table_conclude]
        exact .refl _
      · rw [Watch.inner_conclude]
        rfl
    rw [Watch.release_eq]
    exact hconcluded

/-! ### Disposals in a row -/

theorem Handler.endLifetime_endLifetime (h : Handler) :
    h.endLifetime.endLifetime = h.endLifetime := by
  unfold endLifetime
  rw [List.length_modify, List.modify_modify_eq]
  rfl

namespace Watch

/-- A handler that was disposed of is as one that was disposed of twice. -/
theorem dispose_dispose (w : Watch) : w.dispose.dispose.inner = w.dispose.inner ∧
    w.dispose.dispose.table = w.dispose.table := by
  have hjob : w.dispose.inner.refreshJob = none := by rw [inner_dispose]
  constructor
  · rw [inner_dispose, inner_dispose]
    exact congrArg (fun h : Handler => { h with refreshJob := none, cycle := none })
      w.inner.endLifetime_endLifetime
  · rw [table_dispose w.dispose, hjob]
    rfl

/-- Any number of disposals after one change nothing more. -/
theorem repeat_dispose (w : Watch) (count : Nat) :
    (Nat.repeat dispose count w.dispose).inner = w.dispose.inner ∧
      (Nat.repeat dispose count w.dispose).table = w.dispose.table := by
  induction count with
  | zero => exact ⟨rfl, rfl⟩
  | succ count ih =>
    change (Nat.repeat dispose count w.dispose).dispose.inner = _ ∧
      (Nat.repeat dispose count w.dispose).dispose.table = _
    obtain ⟨hinner, htable⟩ := dispose_dispose w
    constructor
    · rw [inner_dispose (Nat.repeat _ _ _), ih.1, ← inner_dispose w.dispose]
      exact hinner
    · rw [table_dispose (Nat.repeat _ _ _), ih.1, ih.2, ← table_dispose w.dispose]
      exact htable

/-- What holds of the jobs at every moment of a life. -/
structure OneJob (w : Watch) : Prop where
  /-- No job is live, or just one, and that is the refresh job. -/
  live : w.table.live = [] ∨
    ∃ number, w.table.live = [number] ∧ w.inner.refreshJob = some number
  /-- After a disposal none is live, and there is no refresh job. -/
  disposed : w.dispose.table.live = [] ∧ w.dispose.inner.refreshJob = none
  /-- Disposals in a row are as one for jobs, lifetimes and cycle. -/
  again : ∀ count, (Nat.repeat dispose count w.dispose).inner = w.dispose.inner ∧
    (Nat.repeat dispose count w.dispose).table = w.dispose.table
  /-- After a successful activation with a job just one is live. -/
  activated : ∀ after, w.activate true = (none, after) → 0 < w.inner.refreshInterval →
    ∃ number, after.table.live = [number] ∧ after.inner.refreshJob = some number

end Watch

theorem Life.oneJob {w : Watch} {flights : List Flight} (h : Life w flights) : w.OneJob where
  live := by
    cases hlive : w.table.live with
    | nil => exact .inl rfl
    | cons number rest =>
      have hnumber : w.table.isCancelled number = false :=
        Timetable.mem_live_iff.1 (hlive ▸ List.mem_cons_self)
      rw [← hlive]
      exact .inr ⟨number, h.soleJob.live_eq hnumber⟩
  disposed := by
    refine ⟨Timetable.live_eq_nil_iff.2 h.soleJob.isCancelled_dispose, ?_⟩
    rw [Watch.inner_dispose]
  again := w.repeat_dispose
  activated after hafter hinterval := by
    cases hparse : ReferencePoint.parse w.inner.settings.location with
    | error fault =>
      rw [Watch.activate_of_error hparse] at hafter
      cases hafter
    | ok p =>
      rw [Watch.activate_of_ok hparse, Prod.mk.injEq] at hafter
      rw [← hafter.2]
      exact Watch.SoleJob.live_startJob (w := w.begun p) h.soleJob hinterval

/-- **The jobs of a handler never compete.**  A handler that nothing has happened to is at a moment
of a life; lists of steps keep to a life, a single step does whatever takes place within its
requests, and so does who cancels any job or all jobs of the scheduler.  No job is lost, no
cancelled one comes back, the interval never changes, and a bridge that was checked sets a positive
one.  At every moment of a life at most one of all the jobs ever scheduled is live, and this is the
refresh job; a disposal leaves none, however often it is repeated, and a successful activation with
a job just one. -/
theorem jobs_never_compete :
    (∀ bridge settings registry sink,
      let w : Watch := Timed.start (.create bridge settings registry sink)
      Life w [] ∧ ∀ (s : BridgeSettings) platform, s.check = .ok s →
        s.bridge platform = .ok bridge → 0 < w.inner.refreshInterval) ∧
    (∀ nested, Watch.Orderly nested → Watch.Orderly (Watch.perform nested)) ∧
    (∀ w flights, Life w flights →
      (∀ list, Life (Watch.steps list w).2 flights ∧ w.Onward (Watch.steps list w).2) ∧
      (∀ number, Life (w.retime fun t => (t.cancel number).1) flights) ∧
      Life (w.retime Timetable.shutdown) flights) ∧
    ∀ w flights, Life w flights → w.OneJob := by
  refine ⟨fun bridge settings registry sink => ⟨.start bridge settings registry sink, ?_⟩,
    fun nested h => h.perform, fun w flights h => ?_, fun w flights h => h.oneJob⟩
  · intro s platform hcheck hbridge
    obtain ⟨credentials, -, rfl⟩ := BridgeSettings.bridge_eq_ok_iff.1 hbridge
    exact (BridgeSettings.check_eq_ok_iff.1 hcheck).1.refreshInterval
  · exact ⟨fun list => ⟨h.steps list, Watch.onward_steps list w⟩,
      fun number => h.aside (Watch.aside_retime (Timetable.tends_cancel _ number)),
      h.aside (Watch.aside_retime (Timetable.tends_shutdown _))⟩

/-- Steps in which the refresh job is cancelled from outside, the handler is activated again while a
request is pending, and disposed of and activated once more. -/
def reemployment : List Step :=
  [.activate true, .cancelJob,
    .respond [.mk (.response ⟨404, "", "Not Found"⟩) [.activate true]], .refresh, .dispose,
    .activate true]

/-- A life of these steps. -/
def reemployed : Watch := (Watch.steps reemployment watchedPlace).2

/-- Of the three jobs in it only the last one is live. -/
theorem reemployed_has_one_job :
    Life reemployed [] ∧ reemployed.OneJob ∧ 0 < reemployed.inner.refreshInterval ∧
      reemployed.table.jobs.length = 3 ∧ reemployed.table.live = [2] := by
  have hcheck : BridgeSettings.check { baseUrl := "/v1" } = .ok { baseUrl := "/v1" } :=
    (BridgeSettings.usable_usual (by decide)).check
  obtain ⟨hstart, hinterval⟩ := jobs_never_compete.1 ⟨.connect { baseUrl := "/v1" }, 60⟩
    { location := "51.2,7.1" } .builtIn .steady
  obtain ⟨hlife, honward⟩ := (jobs_never_compete.2.2.1 _ [] hstart).1 reemployment
  have hpositive : 0 < reemployed.inner.refreshInterval := by
    unfold reemployed watchedPlace
    rw [honward.refreshInterval]
    exact hinterval { baseUrl := "/v1" } {} hcheck rfl
  exact ⟨hlife, jobs_never_compete.2.2.2 reemployed [] hlife, hpositive, by decide +kernel,
    by decide +kernel⟩

end StationWatch
