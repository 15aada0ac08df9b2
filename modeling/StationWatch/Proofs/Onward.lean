import StationWatch.Proofs.Lifetimes

/-!
# Later moments

Whatever happens to a handler, its journal is only ever continued, no job is lost, no cancelled job
comes back, and the interval between cycles and the sink stay as they are.  One moment is onward
from another if it may be later in this sense; every step leads onward.

## Main definitions

* `Timetable.Continues` — a timetable continued: jobs may be added and cancelled.
* `Watch.Onward` — a moment that may be a later one.
* `Watch.Advances` — steps within requests that lead onward.
* `Watch.Orderly` — steps within requests that also keep to a life.

## Main results

* `onward_perform`, `onward_steps` — every step and every list of steps leads onward.
* `Orderly.perform`, `orderly_performWithin` — a step is orderly if the steps within it are.
-/

namespace StationWatch

/-! ### Timetables -/

namespace Timetable

/-- A timetable continued: no job is lost, and no cancelled one comes back. -/
structure Continues (t t' : Timetable) : Prop where
  /-- There are at least as many jobs as before. -/
  length : t.jobs.length ≤ t'.jobs.length
  /-- A job that was cancelled still is. -/
  cancelled : ∀ number < t.jobs.length, t.isCancelled number = true →
    t'.isCancelled number = true

theorem Continues.refl (t : Timetable) : Continues t t := ⟨Nat.le_refl _, fun _ _ h => h⟩

theorem Continues.trans {t t' t'' : Timetable} (h : Continues t t') (h' : Continues t' t'') :
    Continues t t'' :=
  ⟨Nat.le_trans h.length h'.length, fun number hlt hcancelled =>
    h'.cancelled number (Nat.lt_of_lt_of_le hlt h.length) (h.cancelled number hlt hcancelled)⟩

theorem Tends.continues {t t' : Timetable} (h : Tends t t') : Continues t t' :=
  ⟨Nat.le_of_eq h.length.symm, fun number _ => h.cancelled number⟩

theorem continues_append (t : Timetable) (job : Job) (tracked : List Nat) :
    Continues t ⟨t.jobs ++ [job], tracked⟩ := by
  refine ⟨by simp, fun number hlt hcancelled => ?_⟩
  rw [isCancelled_append, if_neg (by omega)]
  exact hcancelled

end Timetable

namespace Watch

variable {w w' w'' : Watch}

/-! ### Onward -/

/-- A moment that may be a later one. -/
structure Onward (w w' : Watch) : Prop where
  /-- The journal was continued. -/
  journal : w.journal <:+ w'.journal
  /-- The timetable was continued. -/
  table : w.table.Continues w'.table
  /-- The interval between cycles stayed. -/
  refreshInterval : w'.inner.refreshInterval = w.inner.refreshInterval
  /-- The sink stayed. -/
  sink : w'.inner.sink = w.inner.sink

theorem Onward.refl (w : Watch) : Onward w w := ⟨List.suffix_refl _, .refl _, rfl, rfl⟩

theorem Onward.trans (h : Onward w w') (h' : Onward w' w'') : Onward w w'' :=
  ⟨h.journal.trans h'.journal, h.table.trans h'.table,
    h'.refreshInterval.trans h.refreshInterval, h'.sink.trans h.sink⟩

theorem onward_note (w : Watch) (event : Event) : Onward w (w.note event) :=
  ⟨List.suffix_cons _ _, .refl _, rfl, rfl⟩

theorem onward_update (w : Watch) {f : Handler → Handler}
    (hinterval : (f w.inner).refreshInterval = w.inner.refreshInterval)
    (hsink : (f w.inner).sink = w.inner.sink) : Onward w (w.update f) :=
  ⟨List.suffix_refl _, .refl _, hinterval, hsink⟩

theorem Aside.onward (h : Aside w w')
    (hinterval : w'.inner.refreshInterval = w.inner.refreshInterval) : Onward w w' := by
  obtain ⟨news, hjournal, -⟩ := h.journal
  exact ⟨⟨news, hjournal.symm⟩, h.table.continues, hinterval, h.sink⟩

theorem onward_startJob (w : Watch) : Onward w (startJob w) := by
  rcases startJob_cases w with
    ⟨-, heq⟩ | ⟨-, ⟨-, entry, heq⟩ | ⟨-, before, after, heq⟩⟩
  · rw [heq]
    exact .refl w
  · rw [heq]
    exact onward_note w _
  · rw [heq]
    exact ⟨⟨[_, _], rfl⟩, Timetable.continues_append _ _ _, rfl, rfl⟩

theorem onward_activate (w : Watch) (schedule : Bool) : Onward w (w.activate schedule).2 := by
  cases hparse : ReferencePoint.parse w.inner.settings.location with
  | error fault =>
    rw [activate_of_error hparse]
    exact ⟨⟨[_, _, _], rfl⟩, .refl _, rfl, rfl⟩
  | ok p =>
    have hbegun : Onward w (w.begun p) := ⟨⟨[_, _], rfl⟩, .refl _, rfl, rfl⟩
    rw [activate_of_ok hparse]
    cases schedule with
    | false => exact hbegun
    | true => exact hbegun.trans (onward_startJob _)

theorem onward_dispose (w : Watch) : Onward w w.dispose where
  journal := by
    obtain ⟨news, entry, hjournal, -⟩ := journal_dispose w
    exact ⟨news ++ [.reached .disposed, .logged entry], by simp [hjournal]⟩
  table := by
    rw [table_dispose]
    cases w.inner.refreshJob with
    | none => exact .refl _
    | some number => exact (Timetable.tends_cancel _ number).continues
  refreshInterval := by
    rw [inner_dispose]
    rfl
  sink := by
    rw [inner_dispose]
    rfl

theorem onward_act (w : Watch) (number : Nat) (effect : Effect) :
    Onward w (w.act number effect) := by
  cases effect with
  | pause seconds => exact onward_note w _
  | log entry => exact onward_note w _
  | enter phase => exact onward_update w (f := (·.enter number phase)) rfl rfl

@[simp] theorem table_conclude (number : Nat) (outcome : Outcome) (w : Watch) :
    (w.conclude number outcome).2.table = w.table := by
  obtain ⟨fault, ending, told, -, heq⟩ := w.exists_concludes number outcome
  rw [heq]

theorem onward_conclude (w : Watch) (number : Nat) (outcome : Outcome) :
    Onward w (w.conclude number outcome).2 := by
  obtain ⟨fault, ending, told, -, heq⟩ := w.exists_concludes number outcome
  rw [heq]
  -- What the cycle publishes and its end come on top.
  exact ⟨(List.suffix_append _ _).trans (List.suffix_cons _ _), .refl _, rfl, rfl⟩

theorem onward_release (w : Watch) (guarded : Bool) : Onward w (w.release guarded) := by
  rw [release_eq]
  exact onward_update w rfl rfl

/-- Everything that can happen at one moment leads onward from whatever was before. -/
theorem kept_onward (w : Watch) : Kept fun w' _ => w.Onward w' where
  aside h haside _ hinterval := h.trans (haside.onward hinterval)
  activate h schedule := h.trans (onward_activate _ schedule)
  dispose h := h.trans (onward_dispose _)
  refresh h _ _ _ _ := h.trans ((onward_update _ rfl rfl).trans (onward_note _ _))
  rerun h _ := h.trans (onward_note _ _)
  act h := h.trans (onward_act _ _ _)
  ask h _ := h.trans (onward_note _ _)
  conclude h := h.trans ((onward_conclude _ _ _).trans (onward_release _ _))

/-- Steps within requests that lead onward. -/
def Advances (nested : Nested) : Prop := ∀ step w, Onward w (nested step w).2

theorem Advances.keeps {nested : Nested} (h : Advances nested) (w : Watch) :
    Keeps (fun w' _ => w.Onward w') nested :=
  fun step w' _ honward => honward.trans (h step w')

/-- Every step leads onward, if the steps within its requests do. -/
theorem onward_perform {nested : Nested} (h : Advances nested) : Advances (perform nested) :=
  fun step w => @Kept.yield _ nested w [] (kept_onward w) (h.keeps w) step (.refl w)

/-- Steps within requests that keep to a life and lead onward. -/
structure Orderly (nested : Nested) : Prop where
  /-- They keep to a life. -/
  nestable : Life.Nestable nested
  /-- They lead onward. -/
  advances : Advances nested

/-- A step is orderly if the steps within its requests are. -/
theorem Orderly.perform {nested : Nested} (h : Orderly nested) : Orderly (perform nested) :=
  ⟨fun step _ _ hlife => hlife.yield h.nestable step, onward_perform h.advances⟩

/-- Every list of steps leads onward. -/
theorem onward_steps (list : List Step) (w : Watch) : Onward w (steps list w).2 :=
  @Kept.steps _ w [] (kept_onward w) list (.refl w)

end Watch

end StationWatch
