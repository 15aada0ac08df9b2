import StationWatch.Proofs.Exclusion

/-!
# Refused activations

An activation without a valid place is refused.  It publishes one status, offline because of the
settings, and leaves the handler with its jobs as it is.  So a handler that was not active before
stays disabled until the next successful activation, and a handler that was active goes on with the
lifetime it had, although the status says otherwise, until it is disposed of.

## Main definitions

* `Watch.Refusal` — what a refused activation does.
* `Watch.Disabled` — no refresh runs, and no cycle publishes.

## Main results

* `Life.disabled_iff` — a handler is disabled exactly while no lifetime lasts.
* `Journal.current_append_eq_none_iff` — a lifetime that lasts ends by a disposal only, as long as
  no other one begins.
* `refusals_only_report` — when a refused activation leaves the handler disabled.

## References

`SPEC_FULL.md`, sections 7 and 10.5, on a missing place.
-/

namespace StationWatch

/-! ### After a refusal -/

namespace Journal

/-- As long as no lifetime begins, the one that lasts ends by a disposal only. -/
theorem current_append_eq_none_iff {since : Journal} (journal : Journal)
    (h : ∀ number, .reached (.activated number) ∉ since) :
    current (since ++ journal) = none ↔ journal.current = none ∨ .reached .disposed ∈ since := by
  induction since with
  | nil => simp
  | cons event since ih =>
    have hsince := ih fun number hmem => h number (List.mem_cons_of_mem _ hmem)
    rw [List.cons_append, current_cons]
    cases hends : event.endsLifetime with
    | true =>
      -- Neither an activation nor anything else: a disposal.
      cases event with
      | reached milestone =>
        cases milestone with
        | activated number => exact absurd List.mem_cons_self (h number)
        | disposed => simp [Event.begun?]
        | _ => cases hends
      | _ => cases hends
    | false =>
      rw [if_neg Bool.false_ne_true, hsince, List.mem_cons]
      have hother : .reached .disposed ≠ event := by
        rintro rfl
        cases hends
      simp [hother]

/-- While no lifetime lasts only a refused activation accounts for anything published. -/
theorem due_of_current_eq_none {before : Journal} {event : Event} (hnone : before.current = none)
    (h : ∀ number, event ≠ .reached (.activated number)) :
    due before event = [] ∨ due before event = [.status (.offline (some .configurationError))] := by
  cases event with
  | reached milestone =>
    cases milestone with
    | activated number => exact absurd rfl (h number)
    | refused fault => exact .inr rfl
    | concluded number outcome =>
      left
      simp [due, lasts_iff, hnone]
    | broken number outcome told =>
      left
      simp [due, lasts_iff, hnone]
    | _ => exact .inl rfl
  | _ => exact .inl rfl

/-- So as long as no lifetime begins nothing is published but the status of refused activations. -/
theorem deliveries_append {since : Journal} (journal : Journal)
    (h : ∀ number, .reached (.activated number) ∉ since) (hnone : journal.current = none) :
    ∃ count, deliveries (since ++ journal) = journal.deliveries ++
      List.replicate count (.status (.offline (some .configurationError))) := by
  induction since with
  | nil => exact ⟨0, by simp⟩
  | cons event since ih =>
    have hbefore : ∀ number, .reached (.activated number) ∉ since :=
      fun number hmem => h number (List.mem_cons_of_mem _ hmem)
    have hevent : ∀ number, event ≠ .reached (.activated number) := by
      rintro number rfl
      exact h number List.mem_cons_self
    have hended : current (since ++ journal) = none :=
      (current_append_eq_none_iff journal hbefore).2 (.inl hnone)
    obtain ⟨count, hcount⟩ := ih hbefore
    rw [List.cons_append, deliveries, hcount]
    rcases due_of_current_eq_none hended hevent with hdue | hdue
    · exact ⟨count, by rw [hdue, List.append_nil]⟩
    · exact ⟨count + 1, by rw [hdue, List.append_assoc, ← List.replicate_succ']⟩

end Journal

/-! ### Disabled handlers -/

/-- The handler is not active, no refresh or command runs anything, and no cycle that is still in
flight publishes when it ends. -/
structure Watch.Disabled (w : Watch) : Prop where
  /-- The handler is not active. -/
  inactive : w.inner.isActive = false
  /-- Neither a refresh nor a command does anything. -/
  idles : ∀ nested, w.Idles nested
  /-- No cycle publishes. -/
  silent : ∀ number outcome,
    (w.conclude number outcome).2.journal.announcements = w.journal.announcements

namespace Life

variable {w : Watch} {flights : List Flight}

/-- A handler is active exactly while a lifetime lasts. -/
theorem isActive_eq_false_iff (h : Life w flights) :
    w.inner.isActive = false ↔ w.journal.current = none := by
  rw [Bool.eq_false_iff, ne_eq, h.isolated.isActive_iff, Option.eq_none_iff_forall_ne_some,
    not_exists]
  exact forall_congr' fun number => not_congr (h.settled.isOpen_iff number)

/-- A handler is disabled exactly while no lifetime lasts. -/
theorem disabled_iff (h : Life w flights) : w.Disabled ↔ w.journal.current = none := by
  rw [← h.isActive_eq_false_iff]
  refine ⟨Watch.Disabled.inactive, fun hinactive => ⟨hinactive,
    fun _ => Watch.idles_of_not_isActive hinactive, fun number outcome => ?_⟩⟩
  have hover : ¬ w.journal.Lasts number := by
    simp [Journal.lasts_iff, h.isActive_eq_false_iff.1 hinactive]
  obtain ⟨told, -, hannounced, -⟩ := h.settled.announcements_conclude number outcome
  rw [hannounced, if_neg hover, List.append_nil]

end Life

/-! ### Refusals -/

/-- What a refused activation does: it tells why, publishes one status and sends nothing; the
handler and its jobs stay as they are. -/
structure Watch.Refusal (w : Watch) (outcome : Outcome) (after : Watch) : Prop where
  /-- The place in the settings is at fault. -/
  outcome : ∃ fault, ReferencePoint.parse w.inner.settings.location = .error fault ∧
    outcome = .configFailure fault
  /-- Just one status is published. -/
  announcements : after.journal.announcements =
    w.journal.announcements ++ [.status (.offline (some .configurationError))]
  /-- No request is sent. -/
  requests : after.journal.requests = w.journal.requests
  /-- No job is started. -/
  table : after.table = w.table
  /-- The handler stays as it is. -/
  inner : after.inner = w.inner

/-- An activation with an outcome was refused. -/
theorem Watch.refusal_of_activate {w after : Watch} {schedule : Bool} {outcome : Outcome}
    (h : w.activate schedule = (some outcome, after)) : w.Refusal outcome after := by
  cases hparse : ReferencePoint.parse w.inner.settings.location with
  | ok p =>
    rw [Watch.activate_of_ok hparse] at h
    cases h
  | error fault =>
    rw [Watch.activate_of_error hparse] at h
    cases h
    refine ⟨⟨fault, hparse, rfl⟩, ?_, ?_, rfl, rfl⟩
    · simp [Watch.refused, Timed.log, Timed.note, Journal.announcements_cons, Event.announcement?]
    · simp [Watch.refused, Timed.log, Timed.note, Journal.requests, Event.request?]

/-- **A refused activation only reports itself.**  Lists of steps, a step with whatever takes place
within its requests, and other settings keep to a life.  At every moment of a life an activation
that has an outcome publishes one status, offline because of the settings, sends nothing and leaves
the handler and its jobs as they are.  From then until the next successful activation the handler is
disabled exactly if it was not active before or was disposed of since; in the first case nothing is
published meanwhile but the status of further refusals. -/
theorem refusals_only_report (w : Watch) (flights : List Flight) (h : Life w flights) :
    (∀ list, Life (Watch.steps list w).2 flights) ∧
    (∀ nested step, Life.Nestable nested → Life (Watch.perform nested step w).2 flights) ∧
    (∀ settings, Life (w.update ({ · with settings })) flights) ∧
    ∀ schedule outcome after, w.activate schedule = (some outcome, after) →
      w.Refusal outcome after ∧
        ∀ w' flights' since, Life w' flights' → w'.journal = since ++ after.journal →
          (∀ number, .reached (.activated number) ∉ since) →
          (w'.Disabled ↔ w.inner.isActive = false ∨ .reached .disposed ∈ since) ∧
            (w.inner.isActive = false → ∃ count, w'.journal.announcements =
              after.journal.announcements ++
                List.replicate count (.status (.offline (some .configurationError)))) := by
  refine ⟨h.steps, fun nested step hnested => h.yield hnested step,
    fun settings => h.aside (Watch.aside_update rfl rfl rfl rfl rfl), ?_⟩
  intro schedule outcome after hrefused
  have hrefusal := Watch.refusal_of_activate hrefused
  refine ⟨hrefusal, fun w' flights' since h' hjournal hsince => ?_⟩
  have hafter : Life after flights := by
    have hlife := h.activate schedule
    rwa [hrefused] at hlife
  -- The refusal left the handler active if it was.
  have hcurrent : after.journal.current = none ↔ w.inner.isActive = false := by
    rw [← hafter.isActive_eq_false_iff, hrefusal.inner]
  constructor
  · rw [h'.disabled_iff, hjournal, Journal.current_append_eq_none_iff _ hsince, hcurrent]
  · intro hinactive
    rw [h'.settled.announcements, hafter.settled.announcements, hjournal]
    exact Journal.deliveries_append _ hsince (hcurrent.2 hinactive)

/-- A handler that was never activated, whose settings name no place. -/
def homeless : Watch :=
  Timed.start (.create ⟨.connect { baseUrl := "/v1" }, 60⟩ { location := "" } .builtIn)

/-- It stays disabled after a refused activation, also when it is refused again. -/
theorem homeless_disabled : ∃ fault,
    let after := homeless.refused fault
    let again := after.refused fault
    homeless.activate true = (some (.configFailure fault), after) ∧
      after.activate false = (some (.configFailure fault), again) ∧
      homeless.Refusal (.configFailure fault) after ∧ again.Disabled ∧
      ∃ count, again.journal.announcements = after.journal.announcements ++
        List.replicate count (.status (.offline (some .configurationError))) := by
  obtain ⟨fault, hparse⟩ :
      ∃ fault, ReferencePoint.parse homeless.inner.settings.location = .error fault := ⟨_, rfl⟩
  have hlife : Life homeless [] := .start _ _ _ _
  have hrefused := Watch.activate_of_error hparse true
  have hagain := Watch.activate_of_error (w := homeless.refused fault) hparse false
  have hafter : Life ((homeless.refused fault).refused fault) [] := by
    have hlater := (hlife.activate true).activate false
    rwa [hrefused, hagain] at hlater
  have hinactive : homeless.inner.isActive = false := by decide +kernel
  obtain ⟨hrefusal, hlater⟩ := (refusals_only_report homeless [] hlife).2.2.2 true _ _ hrefused
  obtain ⟨hdisabled, hpublished⟩ := hlater _ [] [_, _, _] hafter rfl (by simp)
  exact ⟨fault, hrefused, hagain, hrefusal, hdisabled.2 (.inl hinactive), hpublished hinactive⟩

/-- A handler that was activated and whose settings name no place any more. -/
def displaced : Watch :=
  (Watch.steps [.activate false, .setLocation "",
      .respond [.plain (.response ⟨404, "", "Not Found"⟩)]] watchedPlace).2

/-- A refused activation does not disable it: it is active after that, and the next refresh sends a
request, yields an outcome and publishes. -/
theorem displaced_not_disabled :
    let after := (displaced.activate false).2
    let refreshed := Watch.refresh (Watch.performWithin 0) after
    Life displaced [] ∧ (displaced.activate false).1.isSome = true ∧
      after.inner.isActive = true ∧ ¬ after.Disabled ∧
      refreshed.1.toOption.join.isSome = true ∧
      after.journal.requests.length = 0 ∧ refreshed.2.journal.requests.length = 1 ∧
      after.journal.announcements.length < refreshed.2.journal.announcements.length := by
  have hlife : Life displaced [] := (Life.start _ _ _ _).steps _
  have hactive : (displaced.activate false).2.inner.isActive = true := by decide +kernel
  refine ⟨hlife, by decide +kernel, hactive, fun hdisabled => ?_, by decide +kernel,
    by decide +kernel, by decide +kernel, by decide +kernel⟩
  have hinactive := hdisabled.inactive
  rw [hactive] at hinactive
  cases hinactive

end StationWatch
