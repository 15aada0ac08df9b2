import Mathlib.Data.List.Sort
import StationWatch.Proofs.Jobs

/-!
# The scheduler loses no live job

A scheduler forgets cancelled jobs only when it makes another one, while jobs are cancelled at any
time: by whoever holds one, by the wait that ends a run, or from within a callback.  In between,
what it keeps is neither all that it ever made nor just what is live of that.  A ledger writes down
what the scheduler made.  Whatever happens, the jobs kept are some of these in the same order, and
all that are live are among them.

## Main definitions

* `Ledger` — a timetable, and the jobs that its scheduler ever made.
* `Ledger.Step`, `Ledger.Leads` — what can happen to them, once and any number of times.
* `Ledger.Sound` — what holds of a ledger at any time.
* `Timed.Uses` — callbacks that only do what can happen.

## Main results

* `Ledger.Sound.step`, `Ledger.Leads.sound` — a ledger stays sound.
* `Ledger.Leads.continues` — jobs made stay written down, and cancelled ones stay cancelled.
* `Timed.Uses.join` — the runs of a job only do what can happen, if its callback does.
* `scheduler_loses_no_live_job` — what the scheduler keeps, at any time and after each of its calls.

## References

`SPEC_FULL.md`, section 5, on scheduled jobs.
-/

namespace StationWatch

/-! ### What is cancelled -/

namespace Timetable

theorem isCancelled_cancel (t : Timetable) (number other : Nat) :
    (t.cancel number).1.isCancelled other = (t.isCancelled other || decide (other = number)) := by
  rw [cancel, isCancelled_modify]
  by_cases h : number = other
  · subst h
    cases t.jobs[number]? <;> simp
  · simp [h, Ne.symm h]

/-- Jobs cancelled one after another are cancelled in the end, and no other one is. -/
theorem isCancelled_foldl_cancel (numbers : List Nat) (t : Timetable) (other : Nat) :
    (numbers.foldl (fun t number => (t.cancel number).1) t).isCancelled other =
      (t.isCancelled other || decide (other ∈ numbers)) := by
  induction numbers generalizing t with
  | nil => simp
  | cons number rest ih => simp [ih, isCancelled_cancel, Bool.or_assoc]

theorem isCancelled_shutdown (t : Timetable) (other : Nat) :
    t.shutdown.isCancelled other = (t.isCancelled other || decide (other ∈ t.tracked)) :=
  isCancelled_foldl_cancel t.tracked t other

/-- What a call that asks the scheduler for a job leaves; if it is refused, all stays as it is. -/
def scheduled (t : Timetable) (initialDelay period : Float) : Timetable :=
  match t.schedule initialDelay period with
  | .error _ => t
  | .ok (table, _) => table

end Timetable

/-! ### Ledgers -/

/-- A timetable, and what its scheduler did so far. -/
structure Ledger where
  table : Timetable
  /-- The numbers of all jobs that the scheduler made, in order. -/
  made : List Nat

namespace Ledger

/-- Before anything happened. -/
def empty : Ledger := ⟨.empty, []⟩

/-- A call that asks the scheduler for a job.  If it is refused, all stays as it is. -/
def schedule (l : Ledger) (initialDelay period : Float) : Ledger :=
  match l.table.schedule initialDelay period with
  | .error _ => l
  | .ok (table, number) => ⟨table, l.made ++ [number]⟩

/-- Every job that the scheduler keeps cancelled. -/
def shutdown (l : Ledger) : Ledger := ⟨l.table.shutdown, l.made⟩

/-- What can happen at once. -/
inductive Step : Ledger → Ledger → Prop
  /-- The scheduler is asked for a job. -/
  | schedule (l : Ledger) (initialDelay period : Float) : Step l (l.schedule initialDelay period)
  /-- A job is made that the scheduler does not know. -/
  | add (l : Ledger) (job : Job) : Step l ⟨(l.table.add job).1, l.made⟩
  /-- A job is cancelled, whoever made it. -/
  | cancel (l : Ledger) (number : Nat) : Step l ⟨(l.table.cancel number).1, l.made⟩
  | shutdown (l : Ledger) : Step l l.shutdown
  /-- Jobs start, wait, run or end, and may be cancelled by a wait. -/
  | proceed {l : Ledger} {table : Timetable} (htends : l.table.Tends table)
      (htracked : table.tracked = l.table.tracked) : Step l ⟨table, l.made⟩

/-- What can happen in the course of time. -/
def Leads : Ledger → Ledger → Prop := Relation.ReflTransGen Step

variable {l l' : Ledger}

/-! ### Calls of the scheduler -/

theorem table_schedule (l : Ledger) (initialDelay period : Float) :
    (l.schedule initialDelay period).table = l.table.scheduled initialDelay period := by
  unfold schedule Timetable.scheduled
  cases l.table.schedule initialDelay period <;> rfl

theorem schedule_of_refused (l : Ledger) (initialDelay : Float) {period : Float}
    (h : period ≤ 0.0) : l.schedule initialDelay period = l := by
  rw [schedule, Timetable.schedule_eq_error _ _ h]

theorem schedule_of_accepted (l : Ledger) (initialDelay : Float) {period : Float}
    (h : ¬ period ≤ 0.0) : l.schedule initialDelay period =
      ⟨l.table.withJob initialDelay period, l.made ++ [l.table.jobs.length]⟩ := by
  rw [schedule, Timetable.schedule_eq _ _ h]

/-! ### What holds at any time -/

/-- What holds of a ledger at any time. -/
structure Sound (l : Ledger) : Prop where
  /-- No job was made twice. -/
  ascending : l.made.Pairwise (· < ·)
  /-- Every job made is in the timetable. -/
  made_lt : ∀ number ∈ l.made, number < l.table.jobs.length
  /-- The jobs kept were made, and are kept in this order. -/
  sublist : l.table.tracked.Sublist l.made
  /-- Every live job is kept. -/
  kept : ∀ number ∈ l.made, l.table.isCancelled number = false → number ∈ l.table.tracked

theorem Sound.empty : Sound empty := ⟨.nil, by simp [Ledger.empty], .slnil, by simp [Ledger.empty]⟩

/-- The same jobs kept, and no job that was not live before. -/
theorem Sound.of_tends (h : l.Sound) {table : Timetable} (htends : l.table.Tends table)
    (htracked : table.tracked = l.table.tracked) : Sound ⟨table, l.made⟩ where
  ascending := h.ascending
  made_lt number hnumber := by
    rw [htends.length]
    exact h.made_lt number hnumber
  sublist := by
    rw [htracked]
    exact h.sublist
  kept number hnumber hlive := by
    rw [htracked]
    exact h.kept number hnumber (htends.live hlive)

/-- What is live of the jobs kept is what is live of all jobs made. -/
theorem Sound.filter_tracked (h : l.Sound) :
    l.table.tracked.filter (fun number => !l.table.isCancelled number) =
      l.made.filter fun number => !l.table.isCancelled number := by
  -- Both are ascending, so they need only have the same members.
  have hmade := h.ascending.filter fun number => !l.table.isCancelled number
  have htracked := (h.ascending.sublist h.sublist).filter
    fun number => !l.table.isCancelled number
  apply htracked.eq_of_mem_iff hmade
  intro number
  simp only [List.mem_filter, Bool.not_eq_true', and_congr_left_iff]
  intro hlive
  constructor
  · intro hkept
    exact h.sublist.mem hkept
  · intro hnumber
    exact h.kept number hnumber hlive

theorem Sound.not_mem_made (h : l.Sound) : l.table.jobs.length ∉ l.made := by
  intro hmem
  exact Nat.lt_irrefl _ (h.made_lt _ hmem)

/-- With a new job the scheduler keeps what is live of all jobs it made, the new one last. -/
theorem Sound.tracked_withJob (h : l.Sound) (initialDelay period : Float) :
    (l.table.withJob initialDelay period).tracked =
      (l.made ++ [l.table.jobs.length]).filter fun number =>
        !(l.table.withJob initialDelay period).isCancelled number := by
  have hold : l.made.filter (fun number =>
        !(l.table.withJob initialDelay period).isCancelled number) =
      l.made.filter fun number => !l.table.isCancelled number := by
    apply List.filter_congr
    intro number hnumber
    rw [Timetable.isCancelled_withJob, if_neg (Nat.ne_of_lt (h.made_lt number hnumber))]
  have hnew : [l.table.jobs.length].filter (fun number =>
      !(l.table.withJob initialDelay period).isCancelled number) = [l.table.jobs.length] := by
    simp [Timetable.isCancelled_withJob]
  rw [List.filter_append, hold, hnew, ← h.filter_tracked]
  rfl

theorem Sound.withJob (h : l.Sound) (initialDelay period : Float) :
    Sound ⟨l.table.withJob initialDelay period, l.made ++ [l.table.jobs.length]⟩ where
  ascending := by
    rw [List.pairwise_append]
    refine ⟨h.ascending, List.pairwise_singleton _ _, ?_⟩
    intro number hnumber new hnew
    rw [List.mem_singleton.1 hnew]
    exact h.made_lt number hnumber
  made_lt number hnumber := by
    have hlength : (l.table.withJob initialDelay period).jobs.length =
      l.table.jobs.length + 1 := by simp [Timetable.withJob]
    rw [hlength]
    rcases List.mem_append.1 hnumber with hold | hnew
    · exact Nat.lt_succ_of_lt (h.made_lt number hold)
    · rw [List.mem_singleton.1 hnew]
      exact Nat.lt_succ_self _
  sublist := by
    rw [h.tracked_withJob]
    exact List.filter_sublist
  kept number hnumber hlive := by
    rw [h.tracked_withJob]
    exact List.mem_filter.2 ⟨hnumber, by rw [hlive]; rfl⟩

/-- A shutdown cancels every job that was made. -/
theorem Sound.isCancelled_shutdown (h : l.Sound) {number : Nat} (hnumber : number ∈ l.made) :
    l.shutdown.table.isCancelled number = true := by
  rw [shutdown, Timetable.isCancelled_shutdown]
  cases hlive : l.table.isCancelled number with
  | true => rfl
  | false => simpa using h.kept number hnumber hlive

theorem Sound.shutdown (h : l.Sound) : l.shutdown.Sound where
  ascending := h.ascending
  made_lt number hnumber := by
    rw [Ledger.shutdown, (Timetable.tends_shutdown l.table).length]
    exact h.made_lt number hnumber
  sublist := List.nil_sublist _
  kept number hnumber hlive := by
    rw [h.isCancelled_shutdown hnumber] at hlive
    cases hlive

/-- Whatever happens to a sound ledger, it stays sound. -/
theorem Sound.step (h : l.Sound) (hstep : Step l l') : l'.Sound := by
  cases hstep with
  | schedule initialDelay period =>
    by_cases hperiod : period ≤ 0.0
    · rw [l.schedule_of_refused initialDelay hperiod]
      exact h
    · rw [l.schedule_of_accepted initialDelay hperiod]
      exact h.withJob initialDelay period
  | add job =>
    -- The job gets a number that the scheduler never used.
    refine ⟨h.ascending, ?_, h.sublist, ?_⟩
    · intro number hnumber
      have hlength : (l.table.add job).1.jobs.length = l.table.jobs.length + 1 := by
        simp [Timetable.add]
      rw [hlength]
      exact Nat.lt_succ_of_lt (h.made_lt number hnumber)
    · intro number hnumber hlive
      have hne : number ≠ l.table.jobs.length := Nat.ne_of_lt (h.made_lt number hnumber)
      change Timetable.isCancelled ⟨l.table.jobs ++ [job], _⟩ number = false at hlive
      rw [Timetable.isCancelled_append, if_neg hne] at hlive
      exact h.kept number hnumber hlive
  | cancel number => exact h.of_tends (Timetable.tends_cancel l.table number) rfl
  | shutdown => exact h.shutdown
  | proceed htends htracked => exact h.of_tends htends htracked

/-- Every ledger that can come about is sound. -/
theorem Leads.sound (h : Leads empty l) : l.Sound := by
  induction h with
  | refl => exact .empty
  | tail _ hstep ih => exact ih.step hstep

/-! ### What stays -/

/-- A ledger that may be a later one: no job is lost, and no cancelled one comes back. -/
structure Continues (l l' : Ledger) : Prop where
  /-- The timetable is continued. -/
  table : l.table.Continues l'.table
  /-- The jobs made stay written down. -/
  made : l.made <+: l'.made

theorem Continues.step (hstep : Step l l') : l.Continues l' := by
  cases hstep with
  | schedule initialDelay period =>
    by_cases hperiod : period ≤ 0.0
    · rw [l.schedule_of_refused initialDelay hperiod]
      exact ⟨.refl _, List.prefix_rfl⟩
    · rw [l.schedule_of_accepted initialDelay hperiod]
      exact ⟨Timetable.continues_append _ _ _, List.prefix_append _ _⟩
  | add job => exact ⟨Timetable.continues_append _ _ _, List.prefix_rfl⟩
  | cancel number => exact ⟨(Timetable.tends_cancel _ number).continues, List.prefix_rfl⟩
  | shutdown => exact ⟨(Timetable.tends_shutdown _).continues, List.prefix_rfl⟩
  | proceed htends htracked => exact ⟨htends.continues, List.prefix_rfl⟩

theorem Leads.continues (h : Leads l l') : l.Continues l' := by
  induction h with
  | refl => exact ⟨.refl _, List.prefix_rfl⟩
  | tail _ hstep ih =>
    have hnext := Continues.step hstep
    exact ⟨ih.table.trans hnext.table, ih.made.trans hnext.made⟩

end Ledger

/-! ### Runs of jobs -/

namespace Timed

open Ledger

variable {σ : Type} {f g : Timed σ → Timed σ}

/-- Only what can happen to a ledger is done to one that came about. -/
def Uses (f : Timed σ → Timed σ) : Prop :=
  ∀ w made, Leads .empty ⟨w.table, made⟩ → ∃ made', Leads ⟨w.table, made⟩ ⟨(f w).table, made'⟩

/-- One after the other. -/
theorem Uses.comp (hg : Uses g) (hf : Uses f) : Uses (g ∘ f) := by
  intro w made hcame
  obtain ⟨made', hleads⟩ := hf w made hcame
  obtain ⟨made'', hfurther⟩ := hg (f w) made' (hcame.trans hleads)
  exact ⟨made'', hleads.trans hfurther⟩

/-- A call of the scheduler. -/
theorem uses_scheduled (initialDelay period : Float) :
    Uses fun w : Timed σ => w.retime (·.scheduled initialDelay period) := by
  intro w made _
  let after := Ledger.schedule ⟨w.table, made⟩ initialDelay period
  have htable : after.table = w.table.scheduled initialDelay period :=
    table_schedule ⟨w.table, made⟩ initialDelay period
  refine ⟨after.made, .single ?_⟩
  change Ledger.Step _ ⟨w.table.scheduled initialDelay period, after.made⟩
  rw [← htable]
  exact .schedule ⟨w.table, made⟩ initialDelay period

theorem uses_cancel (number : Nat) :
    Uses fun w : Timed σ => w.retime fun t => (t.cancel number).1 :=
  fun _ made _ => ⟨made, .single (.cancel _ number)⟩

theorem uses_shutdown : Uses fun w : Timed σ => w.retime Timetable.shutdown :=
  fun _ made _ => ⟨made, .single (.shutdown _)⟩

/-- A job from its start to its end, with all its runs. -/
theorem Uses.join (h : Uses f) (number limit : Nat) (patience : Option Float) :
    Uses (Timed.join f number limit patience) := by
  intro w made hcame
  -- What carries over from run to run: all that happened so far is what can happen.
  let Came (w' : Timed σ) : Prop := ∃ made', Leads ⟨w.table, made⟩ ⟨w'.table, made'⟩
  have hcallback (w' : Timed σ) (hw' : Came w') : Came (f w') := by
    obtain ⟨made', hleads⟩ := hw'
    obtain ⟨made'', hfurther⟩ := h w' made' (hcame.trans hleads)
    exact ⟨made'', hleads.trans hfurther⟩
  have hproceeds (w' w'' : Timed σ) (hw' : Came w') (hafter : w'.Proceeds w'') : Came w'' := by
    obtain ⟨made', hleads⟩ := hw'
    exact ⟨made', hleads.tail (.proceed hafter.table hafter.tracked)⟩
  exact join_preserves hcallback hproceeds number limit patience ⟨made, .refl⟩

end Timed

/-! ### What the scheduler keeps -/

namespace Ledger

/-- Every call whose period is not zero or less makes a job that is new and live, and after it the
scheduler keeps exactly what is live of all jobs that it ever made, in order. -/
def Accepts (l : Ledger) : Prop :=
  ∀ initialDelay period : Float, ¬ period ≤ 0.0 → ∃ table number,
    l.table.schedule initialDelay period = .ok (table, number) ∧
    number ∉ l.made ∧ table.isCancelled number = false ∧
    table.tracked = (l.made ++ [number]).filter fun n => !table.isCancelled n

/-- What the scheduler keeps, at any time and after each of its calls. -/
structure Faithful (l : Ledger) : Prop where
  /-- Every live job that it made is kept, and just once. -/
  once : ∀ number ∈ l.made, l.table.isCancelled number = false →
    l.table.tracked.count number = 1
  /-- Only jobs that it made are kept, in the order in which it made them. -/
  sublist : l.table.tracked.Sublist l.made
  /-- A period is accepted unless it is zero or less. -/
  accepts : l.Accepts
  /-- Otherwise it is refused, and nothing changes. -/
  refuses : ∀ initialDelay period : Float, period ≤ 0.0 →
    l.table.schedule initialDelay period = .error ⟨period⟩ ∧ l.schedule initialDelay period = l
  /-- After a shutdown every job made so far is cancelled and stays so, and the scheduler goes on
  accepting. -/
  shutdown : ∀ later, Leads l.shutdown later →
    (∀ number ∈ l.made, number ∈ later.made ∧ later.table.isCancelled number = true) ∧
    later.Accepts

variable {l : Ledger}

theorem Sound.accepts (h : l.Sound) : l.Accepts := by
  intro initialDelay period hperiod
  refine ⟨_, _, l.table.schedule_eq initialDelay hperiod, h.not_mem_made, ?_,
    h.tracked_withJob initialDelay period⟩
  rw [Timetable.isCancelled_withJob, if_pos rfl]

theorem Sound.count_tracked (h : l.Sound) {number : Nat} (hnumber : number ∈ l.made)
    (hlive : l.table.isCancelled number = false) : l.table.tracked.count number = 1 := by
  have hnodup : l.table.tracked.Nodup :=
    (h.ascending.sublist h.sublist).imp fun hlt => Nat.ne_of_lt hlt
  exact List.count_eq_one_of_mem hnodup (h.kept number hnumber hlive)

theorem Leads.faithful (h : Leads empty l) : l.Faithful where
  once _ hnumber hlive := h.sound.count_tracked hnumber hlive
  sublist := h.sound.sublist
  accepts := h.sound.accepts
  refuses initialDelay _ hperiod :=
    ⟨l.table.schedule_eq_error initialDelay hperiod, l.schedule_of_refused initialDelay hperiod⟩
  shutdown later hlater := by
    have hdown : Leads empty l.shutdown := h.tail (.shutdown l)
    have hcontinues := hlater.continues
    refine ⟨?_, Sound.accepts (Leads.sound (hdown.trans hlater))⟩
    intro number hnumber
    refine ⟨hcontinues.made.subset hnumber, ?_⟩
    exact hcontinues.table.cancelled number (hdown.sound.made_lt number hnumber)
      (h.sound.isCancelled_shutdown hnumber)

end Ledger

/-- **The scheduler loses no live job.**  Calls of the scheduler, cancellations and shutdowns are
what can happen to a ledger, in any order and number, and so are the runs of a job whose callback
itself does nothing else.  Whatever has happened, every live job that the scheduler made is kept
just once; a call that is accepted leaves exactly the live ones of all jobs it ever made, in order;
a call with a period of zero or less changes nothing; and a shutdown cancels all of them for good
while further calls are accepted. -/
theorem scheduler_loses_no_live_job :
    (∀ (σ : Type) (f g : Timed σ → Timed σ), Timed.Uses f → Timed.Uses g →
      (∀ initialDelay period, Timed.Uses fun w : Timed σ =>
        w.retime (·.scheduled initialDelay period)) ∧
      (∀ number, Timed.Uses fun w : Timed σ => w.retime fun t => (t.cancel number).1) ∧
      Timed.Uses (fun w : Timed σ => w.retime Timetable.shutdown) ∧ Timed.Uses (g ∘ f) ∧
      ∀ number limit patience, Timed.Uses (Timed.join f number limit patience)) ∧
    ∀ l, Ledger.Leads .empty l → l.Faithful := by
  constructor
  · intro σ f g hf hg
    exact ⟨Timed.uses_scheduled, Timed.uses_cancel, Timed.uses_shutdown, hg.comp hf, hf.join⟩
  · intro l h
    exact h.faithful

/-- Two jobs are scheduled, a third one is refused, and the first one runs until it has used up its
budget of one wait.  Its callback cancels the second job and schedules another one. -/
def relief (w : Timed Unit) : Timed Unit :=
  Timed.join ((·.retime (·.scheduled 0.0 60.0)) ∘ (·.retime fun t => (t.cancel 1).1)) 0 2 none
    ((((w.retime (·.scheduled 0.0 60.0)).retime (·.scheduled 5.0 30.0)).retime
      (·.scheduled 1.0 0.0)).retime (·.grant 0 1))

/-- The scheduler still keeps the job that ended, and keeps the one that the callback scheduled
until a shutdown cancels it. -/
theorem relief_is_kept : ∃ made, Ledger.Leads .empty ⟨(relief (.start ())).table, made⟩ ∧
    (relief (.start ())).table.tracked = [0, 2] ∧ (relief (.start ())).table.live = [2] ∧
    2 ∈ made ∧ (relief (.start ())).table.tracked.count 2 = 1 ∧
    ∀ later, Ledger.Leads ⟨(relief (.start ())).table.shutdown, made⟩ later →
      later.table.isCancelled 2 = true := by
  have hid : Timed.Uses (id : Timed Unit → Timed Unit) := fun _ made _ => ⟨made, .refl⟩
  obtain ⟨hscheduled, hcancel, -⟩ := scheduler_loses_no_live_job.1 Unit id id hid hid
  have hgrant : Timed.Uses fun w : Timed Unit => w.retime (·.grant 0 1) :=
    fun w made _ => ⟨made, .single (.proceed (Timetable.tends_modify fun _ _ hjob => hjob) rfl)⟩
  have hbefore := hgrant.comp ((hscheduled 1.0 0.0).comp
    ((hscheduled 5.0 30.0).comp (hscheduled 0.0 60.0)))
  obtain ⟨-, -, -, hcallback, -⟩ :=
    scheduler_loses_no_live_job.1 Unit _ _ (hcancel 1) (hscheduled 0.0 60.0)
  obtain ⟨-, -, -, -, hjoin⟩ := scheduler_loses_no_live_job.1 Unit _ _ hcallback hid
  have hrelief : Timed.Uses relief := (hjoin 0 2 none).comp hbefore
  obtain ⟨made, hleads⟩ := hrelief (.start ()) [] .refl
  have hfaithful := scheduler_loses_no_live_job.2 _ hleads
  have htracked : (relief (.start ())).table.tracked = [0, 2] := by decide +kernel
  have hlive : (relief (.start ())).table.live = [2] := by decide +kernel
  have hmade : 2 ∈ made := hfaithful.sublist.mem (by rw [htracked]; decide)
  refine ⟨made, hleads, htracked, hlive, hmade, ?_, fun later hlater => ?_⟩
  · have hcurrent : 2 ∈ (relief (.start ())).table.live := by
      rw [hlive]
      exact List.mem_singleton_self 2
    exact hfaithful.once 2 hmade (Timetable.mem_live_iff.1 hcurrent)
  · exact ((hfaithful.shutdown later hlater).1 2 hmade).2

end StationWatch
