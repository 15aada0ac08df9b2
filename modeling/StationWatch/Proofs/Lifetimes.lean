import StationWatch.Proofs.Operations
import StationWatch.Sink

/-!
# Whose announcements reach the sink

The milestones in a journal tell which lifetime lasts: the one that was begun last, unless the
handler has been disposed of since.  At every moment of a life exactly this lifetime is open, and
the sink has received what the milestones account for: a status for every activation and for every
refused one, and everything that a cycle publishes, provided that the lifetime in which it was made
lasted when it ended.  A cycle publishes all values and the status of its outcome, unless the sink
does not take one of these updates; then it publishes nothing after that one.

## Main definitions

* `Journal.Lasts` — the lifetime of a number lasts.
* `Journal.deliveries` — what the milestones of a journal account for.
* `Concludes` — the ways in which a cycle ends.
* `Watch.Isolated` — what holds at every moment of a life.

## Main results

* `Journal.lasts_iff` — which lifetime lasts can be read off.
* `Watch.exists_concludes` — the end of a cycle.
* `Life.settled` — the lifetimes and the sink agree with the journal.
* `Life.isolated` — the lifetimes of a handler are isolated from each other.

## References

`SPEC_FULL.md`, section 10.5, on activation and disposal.
-/

namespace StationWatch

/-! ### Reading a journal -/

namespace Event

/-- Whether the lifetime that lasts is over with an entry. -/
def endsLifetime : Event → Bool
  | .reached (.activated _) => true
  | .reached .disposed => true
  | _ => false

/-- The number of the lifetime that begins with an entry, if one does. -/
def begun? : Event → Option Nat
  | .reached (.activated number) => some number
  | _ => none

/-- Whether an entry neither was announced nor accounts for an announcement nor ends a lifetime. -/
def isNeutral : Event → Bool
  | .announced _ => false
  | .reached (.began _) => true
  | .reached _ => false
  | _ => true

theorem isNeutral_of_isQuiet {event : Event} (h : event.isQuiet = true) :
    event.isNeutral = true := by
  cases event <;> simp_all [isQuiet, isNeutral]

theorem endsLifetime_of_isNeutral {event : Event} (h : event.isNeutral = true) :
    event.endsLifetime = false := by
  cases event with
  | reached milestone => cases milestone <;> simp_all [isNeutral, endsLifetime]
  | _ => rfl

theorem begun?_of_endsLifetime {event : Event} (h : event.endsLifetime = false) :
    event.begun? = none := by
  cases event with
  | reached milestone => cases milestone <;> simp_all [endsLifetime, begun?]
  | _ => rfl

theorem announcement?_of_isNeutral {event : Event} (h : event.isNeutral = true) :
    event.announcement? = none := by
  cases event <;> simp_all [isNeutral, announcement?]

end Event

namespace Journal

/-- The lifetime of a number lasts: since it was begun no other one was begun, and the handler was
not disposed of. -/
def Lasts (number : Nat) (journal : Journal) : Prop :=
  ∃ since before, journal = since ++ .reached (.activated number) :: before ∧
    ∀ event ∈ since, event.endsLifetime = false

/-- The number of the lifetime that lasts, if one does. -/
def current : Journal → Option Nat
  | [] => none
  | event :: rest => if event.endsLifetime then event.begun? else current rest

theorem current_cons (event : Event) (rest : Journal) :
    current (event :: rest) = if event.endsLifetime then event.begun? else current rest := rfl

/-- Which lifetime lasts can be read off. -/
theorem lasts_iff {number : Nat} {journal : Journal} :
    Lasts number journal ↔ current journal = some number := by
  induction journal with
  | nil => simp [Lasts, current]
  | cons event rest ih =>
    rw [current_cons]
    by_cases hends : event.endsLifetime = true
    · -- The last entry decides: nothing can lie between it and now.
      rw [if_pos hends]
      constructor
      · rintro ⟨since, before, hjournal, hsince⟩
        cases since with
        | nil =>
          rw [List.nil_append, List.cons.injEq] at hjournal
          rw [hjournal.1]
          rfl
        | cons first since =>
          rw [List.cons_append, List.cons.injEq] at hjournal
          rw [hjournal.1, hsince first List.mem_cons_self] at hends
          cases hends
      · intro hbegun
        refine ⟨[], rest, ?_, by simp⟩
        cases event with
        | reached milestone => cases milestone <;> simp_all [Event.begun?]
        | _ => simp [Event.begun?] at hbegun
    · -- The last entry is one of those since the activation.
      rw [if_neg hends, ← ih]
      constructor
      · rintro ⟨since, before, hjournal, hsince⟩
        cases since with
        | nil =>
          rw [List.nil_append, List.cons.injEq] at hjournal
          rw [hjournal.1] at hends
          exact absurd rfl hends
        | cons first since =>
          rw [List.cons_append, List.cons.injEq] at hjournal
          exact ⟨since, before, hjournal.2, fun e he => hsince e (List.mem_cons_of_mem _ he)⟩
      · rintro ⟨since, before, rfl, hsince⟩
        refine ⟨event :: since, before, rfl, ?_⟩
        intro other hother
        rcases List.mem_cons.1 hother with rfl | hother
        · simpa using hends
        · exact hsince other hother

instance (number : Nat) (journal : Journal) : Decidable (Lasts number journal) :=
  decidable_of_iff _ lasts_iff.symm

/-- What an entry accounts for, after the entries before it. -/
def due (before : Journal) : Event → List Announcement
  | .reached (.activated _) => [.status .online]
  | .reached (.refused fault) => (Outcome.configFailure fault).announcements
  | .reached (.concluded number outcome) =>
    if before.Lasts number then outcome.announcements else []
  | .reached (.broken number _ told) => if before.Lasts number then told else []
  | _ => []

/-- What the milestones of a journal account for, in order. -/
def deliveries : Journal → List Announcement
  | [] => []
  | event :: rest => deliveries rest ++ due rest event

/-- The numbers of the lifetimes that were begun, in order. -/
def begun (journal : Journal) : List Nat := journal.reverse.filterMap Event.begun?

theorem announcements_cons (event : Event) (rest : Journal) :
    announcements (event :: rest) = rest.announcements ++ event.announcement?.toList := by
  cases h : event.announcement? <;> simp [announcements, h]

theorem begun_cons (event : Event) (rest : Journal) :
    begun (event :: rest) = rest.begun ++ event.begun?.toList := by
  cases h : event.begun? <;> simp [begun, h]

theorem due_of_isNeutral {before : Journal} {event : Event} (h : event.isNeutral = true) :
    due before event = [] := by
  cases event with
  | reached milestone => cases milestone <;> simp_all [Event.isNeutral, due]
  | _ => rfl

end Journal

/-! ### Open lifetimes -/

namespace Handler

variable (h : Handler)

theorem isOpen_endLifetime (number : Nat) :
    h.endLifetime.isOpen number = (h.isOpen number && number + 1 != h.lifetimes.length) := by
  unfold endLifetime isOpen
  rw [List.getElem?_modify]
  cases hlifetime : h.lifetimes[number]? with
  | none => rfl
  | some lifetime =>
    have hlt : number < h.lifetimes.length := (List.getElem?_eq_some_iff.1 hlifetime).1
    by_cases hlast : h.lifetimes.length - 1 = number
    · have hlength : number + 1 = h.lifetimes.length := by omega
      simp [hlast, hlength]
    · have hlength : number + 1 ≠ h.lifetimes.length := by omega
      simp [hlast, hlength]

theorem isOpen_beginLifetime (p : ReferencePoint) (number : Nat) :
    (h.beginLifetime p).isOpen number =
      if number = h.lifetimes.length then true else h.endLifetime.isOpen number := by
  unfold beginLifetime isOpen
  rw [List.getElem?_append, length_endLifetime]
  by_cases hlt : number < h.lifetimes.length
  · rw [if_pos hlt, if_neg (by omega)]
  · by_cases hnew : number = h.lifetimes.length
    · simp [hnew]
    · have hfurther : number - h.lifetimes.length ≠ 0 := by omega
      simp [hlt, hnew, hfurther]

theorem isOpen_enter (entered number : Nat) (phase : Phase) :
    (h.enter entered phase).isOpen number = h.isOpen number := by
  unfold enter isOpen
  rw [List.getElem?_modify]
  cases h.lifetimes[number]? with
  | none => rfl
  | some lifetime => by_cases heq : entered = number <;> simp [heq]

theorem isActive_eq : h.isActive = h.isOpen (h.lifetimes.length - 1) := by
  rw [isActive, isOpen, List.getLast?_eq_getElem?]

end Handler

namespace Watch

variable {w w' : Watch}

/-- The lifetimes and the sink agree with the journal. -/
structure Settled (w : Watch) : Prop where
  /-- The open lifetime is the one that lasts. -/
  isOpen_iff : ∀ number, w.inner.isOpen number = true ↔ w.journal.current = some number
  /-- Only the last lifetime can last. -/
  current_last : ∀ number, w.journal.current = some number →
    number + 1 = w.inner.lifetimes.length
  /-- The lifetimes were begun in the order of their numbers. -/
  begun : w.journal.begun = List.range w.inner.lifetimes.length
  /-- The sink has received what the milestones account for. -/
  announcements : w.journal.announcements = w.journal.deliveries

theorem settled_start (inner : Handler) (h : inner.lifetimes = []) :
    Settled (Timed.start inner) where
  isOpen_iff number := by simp [Timed.start, Handler.isOpen, h, Journal.current]
  current_last number hcurrent := by simp [Timed.start, Journal.current] at hcurrent
  begun := by simp [Timed.start, Journal.begun, h]
  announcements := rfl

/-- Neutral entries change nothing that a journal tells. -/
theorem neutral_append {news : Journal} (journal : Journal)
    (h : ∀ event ∈ news, event.isNeutral = true) :
    Journal.current (news ++ journal) = journal.current ∧
      Journal.begun (news ++ journal) = journal.begun ∧
      Journal.announcements (news ++ journal) = journal.announcements ∧
      Journal.deliveries (news ++ journal) = journal.deliveries := by
  induction news with
  | nil => exact ⟨rfl, rfl, rfl, rfl⟩
  | cons event news ih =>
    have hevent := h event List.mem_cons_self
    have hends := Event.endsLifetime_of_isNeutral hevent
    obtain ⟨hcurrent, hbegun, hannounced, hdelivered⟩ :=
      ih fun other hother => h other (List.mem_cons_of_mem _ hother)
    rw [List.cons_append, Journal.current_cons, Journal.begun_cons, Journal.announcements_cons,
      Journal.deliveries, hends, Event.begun?_of_endsLifetime hends,
      Event.announcement?_of_isNeutral hevent, Journal.due_of_isNeutral hevent]
    simp [hcurrent, hbegun, hannounced, hdelivered]

/-- Open lifetimes as before and neutral entries only: all stays settled. -/
theorem Settled.of_neutral (h : Settled w)
    (hopen : ∀ number, w'.inner.isOpen number = w.inner.isOpen number)
    (hlength : w'.inner.lifetimes.length = w.inner.lifetimes.length)
    (hjournal : ∃ news, w'.journal = news ++ w.journal ∧ ∀ event ∈ news, event.isNeutral = true) :
    Settled w' := by
  obtain ⟨news, hnews, hneutral⟩ := hjournal
  obtain ⟨hcurrent, hbegun, hannounced, hdelivered⟩ := neutral_append w.journal hneutral
  constructor
  · intro number
    rw [hopen, hnews, hcurrent]
    exact h.isOpen_iff number
  · intro number hlasts
    rw [hnews, hcurrent] at hlasts
    rw [hlength]
    exact h.current_last number hlasts
  · rw [hnews, hbegun, hlength]
    exact h.begun
  · rw [hnews, hannounced, hdelivered]
    exact h.announcements

theorem Settled.note (h : Settled w) {event : Event} (hneutral : event.isNeutral = true) :
    Settled (w.note event) :=
  h.of_neutral (fun _ => rfl) rfl ⟨[event], rfl, by simpa using hneutral⟩

theorem Settled.aside (h : Settled w) (haside : w.Aside w') : Settled w' := by
  obtain ⟨news, hnews, hquiet⟩ := haside.journal
  refine h.of_neutral (fun number => ?_) (by rw [haside.lifetimes])
    ⟨news, hnews, fun event hevent => Event.isNeutral_of_isQuiet (hquiet event hevent)⟩
  unfold Handler.isOpen
  rw [haside.lifetimes]

/-- The end of the current lifetime closes the only one that can be open. -/
theorem Settled.isOpen_endLifetime (h : Settled w) (number : Nat) :
    w.inner.endLifetime.isOpen number = false := by
  rw [Handler.isOpen_endLifetime]
  by_cases hopen : w.inner.isOpen number = true
  · have hlast := h.current_last number ((h.isOpen_iff number).1 hopen)
    simp [hlast]
  · simp [hopen]

/-- A handler that was activated. -/
theorem Settled.begin (h : Settled w) (p : ReferencePoint) :
    Settled (w.begun p) where
  isOpen_iff number := by
    change (w.inner.beginLifetime p).isOpen number = true ↔ some w.inner.lifetimes.length =
      some number
    rw [Handler.isOpen_beginLifetime, h.isOpen_endLifetime, Option.some.injEq]
    by_cases heq : number = w.inner.lifetimes.length
    · simp [heq]
    · simp [heq, Ne.symm heq]
  current_last number hcurrent := by
    have heq : some w.inner.lifetimes.length = some number := hcurrent
    rw [Option.some.injEq] at heq
    rw [← heq]
    exact (Handler.length_beginLifetime _ p).symm
  begun := by
    change Journal.begun (_ :: _ :: w.journal) =
      List.range (w.inner.beginLifetime p).lifetimes.length
    rw [Journal.begun_cons, Journal.begun_cons, h.begun, Handler.length_beginLifetime,
      List.range_succ]
    simp [Event.begun?]
  announcements := by
    change Journal.announcements (_ :: _ :: w.journal) = Journal.deliveries (_ :: _ :: w.journal)
    rw [Journal.announcements_cons, Journal.announcements_cons, h.announcements]
    simp [Journal.deliveries, Journal.due, Event.announcement?]

/-- An activation without a valid place accounts for its own status. -/
theorem Settled.refuse (h : Settled w) (fault : LocationFault) : Settled (w.refused fault) where
  isOpen_iff := h.isOpen_iff
  current_last := h.current_last
  begun := by
    change Journal.begun (_ :: _ :: _ :: w.journal) = List.range w.inner.lifetimes.length
    rw [Journal.begun_cons, Journal.begun_cons, Journal.begun_cons, h.begun]
    simp [Event.begun?]
  announcements := by
    change Journal.announcements (_ :: _ :: _ :: w.journal) =
      Journal.deliveries (_ :: _ :: _ :: w.journal)
    rw [Journal.announcements_cons, Journal.announcements_cons, Journal.announcements_cons,
      h.announcements]
    simp [Journal.deliveries, Journal.due, Event.announcement?, Outcome.announcements,
      Outcome.values, Outcome.update]

/-- An activation begins a lifetime or is refused; the job that it may start is beside both. -/
theorem Settled.activate (h : Settled w) (schedule : Bool) :
    Settled (w.activate schedule).2 := by
  rcases activate_cases w schedule with
    ⟨fault, heq⟩ | ⟨p, news, refreshJob, hjournal, hquiet, hinner⟩
  · rw [heq]
    exact h.refuse fault
  · exact (h.begin p).of_neutral (fun number => by rw [hinner]; rfl) (by rw [hinner])
      ⟨news, hjournal, fun event hevent => Event.isNeutral_of_isQuiet (hquiet event hevent)⟩

/-- A handler that was disposed of has no open lifetime. -/
theorem Settled.finish (h : Settled w) :
    Settled ((w.update Handler.endLifetime).note (.reached .disposed)) where
  isOpen_iff number := by
    change w.inner.endLifetime.isOpen number = true ↔ none = some number
    simp [h.isOpen_endLifetime]
  current_last number hcurrent := by cases hcurrent
  begun := by
    change Journal.begun (_ :: w.journal) = List.range w.inner.endLifetime.lifetimes.length
    rw [Journal.begun_cons, h.begun, Handler.length_endLifetime]
    simp [Event.begun?]
  announcements := by
    change Journal.announcements (_ :: w.journal) = Journal.deliveries (_ :: w.journal)
    rw [Journal.announcements_cons, h.announcements]
    simp [Journal.deliveries, Journal.due, Event.announcement?]

theorem Settled.dispose (h : Settled w) : Settled w.dispose := by
  obtain ⟨news, entry, hjournal, hquiet⟩ := journal_dispose w
  have hlogged : Settled (w.note (.logged entry)) := h.note rfl
  exact hlogged.finish.of_neutral (fun number => by rw [inner_dispose]; rfl)
    (by rw [inner_dispose]; rfl)
    ⟨news, hjournal, fun event hevent => Event.isNeutral_of_isQuiet (hquiet event hevent)⟩

/-! ### The end of a cycle -/

/-- The ways in which a cycle with an outcome ends, by whether its lifetime is open: what is raised,
the milestone, and what the sink was told. -/
inductive Concludes (number : Nat) (outcome : Outcome) :
    (isOpen : Bool) → Option SinkFault → Milestone → List Announcement → Prop
  /-- Nothing is told when the lifetime is over. -/
  | unheard : Concludes number outcome false none (.concluded number outcome) []
  /-- All of the outcome is told. -/
  | whole : Concludes number outcome true none (.concluded number outcome) outcome.announcements
  /-- The sink does not take an update, which is the last one told. -/
  | broken {told rest : List Announcement} {fault : SinkFault}
      (htold : outcome.announcements = told ++ rest) :
      Concludes number outcome true (some fault) (.broken number outcome told) told

/-- A state whose sink has been told some more. -/
def tell (w : Watch) (told : List Announcement) : Watch :=
  { w with journal := told.reverse.map Event.announced ++ w.journal }

theorem tell_note (w : Watch) (a : Announcement) (told : List Announcement) :
    tell (w.note (.announced a)) told = tell w (a :: told) := by
  simp [tell, Timed.note]

theorem publishAll_of_closed {number : Nat} (hclosed : w.inner.isOpen number = false)
    (announcements : List Announcement) : publishAll number announcements w = (none, w) := by
  induction announcements with
  | nil => rfl
  | cons a rest ih => simp [publishAll, publish, hclosed, ih]

/-- While the lifetime is open the sink is told everything, or up to an update that it does not
take. -/
theorem publishAll_of_open {number : Nat} (hopen : w.inner.isOpen number = true)
    (announcements : List Announcement) :
    publishAll number announcements w = (none, tell w announcements) ∨
      ∃ fault told rest, announcements = told ++ rest ∧
        publishAll number announcements w = (some (fault, told), tell w told) := by
  induction announcements generalizing w with
  | nil => exact .inl rfl
  | cons a rest ih =>
    cases hraises : w.inner.sink.raises w.journal a with
    | some fault =>
      refine .inr ⟨fault, [a], rest, rfl, ?_⟩
      simp [publishAll, publish, hopen, hraises, tell, Timed.note]
    | none =>
      have hpublish : publish number a w = (none, w.note (.announced a)) := by
        simp [publish, hopen, hraises]
      rcases ih (w := w.note (.announced a)) hopen with hrest | ⟨fault, told, left, rfl, hrest⟩
      · exact .inl (by simp [publishAll, hpublish, hrest, tell_note])
      · exact .inr ⟨fault, a :: told, left, rfl, by simp [publishAll, hpublish, hrest, tell_note]⟩

/-- A sink that takes every update breaks no cycle off. -/
theorem publishAll_of_steady (hsteady : w.inner.sink = .steady) (number : Nat)
    (announcements : List Announcement) : (publishAll number announcements w).1 = none := by
  induction announcements generalizing w with
  | nil => rfl
  | cons a rest ih =>
    by_cases hopen : w.inner.isOpen number = true
    · have hpublish : publish number a w = (none, w.note (.announced a)) := by
        simp [publish, hopen, hsteady, Sink.steady]
      simp [publishAll, hpublish, ih (w := w.note (.announced a)) hsteady]
    · have hpublish : publish number a w = (none, w) := by simp [publish, hopen]
      simp [publishAll, hpublish, ih hsteady]

/-- What has been announced says nothing of lifetimes. -/
theorem announced_append (announcements : List Announcement) (journal : Journal) :
    Journal.current (announcements.reverse.map Event.announced ++ journal) = journal.current ∧
      Journal.begun (announcements.reverse.map Event.announced ++ journal) = journal.begun ∧
      Journal.announcements (announcements.reverse.map Event.announced ++ journal) =
        journal.announcements ++ announcements ∧
      Journal.deliveries (announcements.reverse.map Event.announced ++ journal) =
        journal.deliveries := by
  induction announcements generalizing journal with
  | nil => simp
  | cons a rest ih =>
    obtain ⟨hcurrent, hbegun, hannounced, hdelivered⟩ := ih (.announced a :: journal)
    rw [List.reverse_cons, List.map_append, List.append_assoc]
    refine ⟨hcurrent, hbegun.trans ?_, hannounced.trans ?_, hdelivered.trans ?_⟩
    · simp [Journal.begun_cons, Event.begun?]
    · simp [Journal.announcements_cons, Event.announcement?]
    · simp [Journal.deliveries, Journal.due]

/-- The end of a cycle: a milestone after what the sink was told, and the phase of the outcome. -/
theorem exists_concludes (number : Nat) (outcome : Outcome) (w : Watch) :
    ∃ fault ending told, Concludes number outcome (w.inner.isOpen number) fault ending told ∧
      w.conclude number outcome = (fault, { w with
        inner := w.inner.enter number outcome.phase
        journal := .reached ending :: (told.reverse.map Event.announced ++ w.journal) }) := by
  have hentered : (w.update (·.enter number outcome.phase)).inner.isOpen number =
      w.inner.isOpen number := Handler.isOpen_enter _ _ _ _
  cases hcase : w.inner.isOpen number with
  | false =>
    have hpublished := publishAll_of_closed (hentered.trans hcase) outcome.announcements
    refine ⟨none, _, _, .unheard, ?_⟩
    simp only [conclude, hpublished]
    rfl
  | true =>
    rcases publishAll_of_open (hentered.trans hcase) outcome.announcements with
      hpublished | ⟨fault, told, rest, htold, hpublished⟩
    · refine ⟨none, _, _, .whole, ?_⟩
      simp only [conclude, hpublished]
      rfl
    · refine ⟨some fault, _, _, .broken htold, ?_⟩
      simp only [conclude, hpublished]
      rfl

theorem conclude_of_steady (hsteady : w.inner.sink = .steady) (number : Nat) (outcome : Outcome) :
    (w.conclude number outcome).1 = none := by
  have hpublished := publishAll_of_steady (w := w.update (·.enter number outcome.phase)) hsteady
    number outcome.announcements
  unfold conclude
  split
  · rfl
  · rename_i hraised
    rw [hraised] at hpublished
    cases hpublished

theorem inner_conclude (number : Nat) (outcome : Outcome) (w : Watch) :
    (w.conclude number outcome).2.inner = w.inner.enter number outcome.phase := by
  obtain ⟨fault, ending, told, -, heq⟩ := w.exists_concludes number outcome
  rw [heq]

/-- The end of a cycle neither begins nor ends a lifetime. -/
theorem Concludes.endsLifetime {number : Nat} {outcome : Outcome} {isOpen : Bool}
    {fault : Option SinkFault} {ending : Milestone} {told : List Announcement}
    (h : Concludes number outcome isOpen fault ending told) :
    (Event.reached ending).endsLifetime = false := by
  cases h <;> rfl

/-- What the end of a cycle accounts for is what the sink was told. -/
theorem Concludes.due {number : Nat} {outcome : Outcome} {fault : Option SinkFault}
    {ending : Milestone} {told : List Announcement} (h : Settled w)
    (hends : Concludes number outcome (w.inner.isOpen number) fault ending told)
    {before : Journal} (hbefore : before.current = w.journal.current) :
    Journal.due before (.reached ending) = told := by
  have hlasts : before.Lasts number ↔ w.inner.isOpen number = true := by
    rw [Journal.lasts_iff, hbefore, h.isOpen_iff]
  generalize w.inner.isOpen number = isOpen at hends hlasts
  cases hends with
  | unheard => simp [Journal.due, hlasts]
  | whole => simp [Journal.due, hlasts]
  | broken htold => simp [Journal.due, hlasts]

theorem Settled.conclude (h : Settled w) (number : Nat) (outcome : Outcome) :
    Settled (w.conclude number outcome).2 := by
  obtain ⟨fault, ending, told, hends, heq⟩ := w.exists_concludes number outcome
  obtain ⟨hcurrent, hbegun, hannounced, hdelivered⟩ := announced_append told w.journal
  rw [heq]
  have hlasting : Journal.current (.reached ending ::
      (told.reverse.map Event.announced ++ w.journal)) = w.journal.current := by
    rw [Journal.current_cons, hends.endsLifetime, hcurrent]
    rfl
  constructor
  · intro other
    dsimp only
    rw [Handler.isOpen_enter, hlasting]
    exact h.isOpen_iff other
  · intro other hother
    rw [hlasting] at hother
    rw [Handler.length_enter]
    exact h.current_last other hother
  · rw [Journal.begun_cons, Event.begun?_of_endsLifetime hends.endsLifetime, hbegun,
      Handler.length_enter, h.begun]
    exact List.append_nil _
  · rw [Journal.announcements_cons, hannounced, h.announcements, Journal.deliveries, hdelivered,
      hends.due h hcurrent]
    exact List.append_nil _

/-- A cycle that ends while its lifetime lasts publishes everything, up to an update that the sink
does not take, and any other cycle publishes nothing. -/
theorem Settled.announcements_conclude (h : Settled w) (number : Nat) (outcome : Outcome) :
    ∃ told, told <+: outcome.announcements ∧
      (w.conclude number outcome).2.journal.announcements = w.journal.announcements ++
        (if w.journal.Lasts number then told else []) ∧
      ((w.conclude number outcome).1 = none → told = outcome.announcements) ∧
      (w.inner.sink = .steady → (w.conclude number outcome).1 = none) := by
  have hlasts : w.journal.Lasts number ↔ w.inner.isOpen number = true := by
    rw [Journal.lasts_iff, h.isOpen_iff]
  obtain ⟨fault, ending, told, hends, heq⟩ := w.exists_concludes number outcome
  have hannounced : (w.conclude number outcome).2.journal.announcements =
      w.journal.announcements ++ told := by
    rw [heq, Journal.announcements_cons, (announced_append told w.journal).2.2.1]
    exact List.append_nil _
  rw [hannounced]
  suffices hcases : ∃ told', told' <+: outcome.announcements ∧
      told = (if w.inner.isOpen number = true then told' else []) ∧
        (fault = none → told' = outcome.announcements) by
    obtain ⟨told', hprefix, htold, hwhole⟩ := hcases
    refine ⟨told', hprefix, ?_, fun hnone => hwhole ?_, fun hsteady => w.conclude_of_steady hsteady
      number outcome⟩
    · simp only [htold, hlasts]
    · rwa [heq] at hnone
  generalize w.inner.isOpen number = isOpen at hends
  cases hends with
  | unheard => exact ⟨_, List.prefix_rfl, rfl, fun _ => rfl⟩
  | whole => exact ⟨_, List.prefix_rfl, rfl, fun _ => rfl⟩
  | broken htold => exact ⟨_, ⟨_, htold.symm⟩, rfl, fun hnone => nomatch hnone⟩

theorem Settled.act (h : Settled w) (number : Nat) (effect : Effect) :
    Settled (w.act number effect) := by
  cases effect with
  | pause seconds => exact h.note rfl
  | log entry => exact h.note rfl
  | enter phase =>
    exact h.of_neutral (fun other => Handler.isOpen_enter _ number other phase)
      (Handler.length_enter _ number phase) ⟨[], rfl, by simp⟩

theorem Settled.release (h : Settled w) (guarded : Bool) : Settled (w.release guarded) := by
  rw [release_eq]
  exact h.of_neutral (fun _ => rfl) rfl ⟨[], rfl, by simp⟩

/-! ### Lifetimes are never taken back -/

theorem length_activate (schedule : Bool) :
    w.inner.lifetimes.length ≤ (w.activate schedule).2.inner.lifetimes.length := by
  rcases activate_cases w schedule with ⟨fault, heq⟩ | ⟨p, news, refreshJob, -, -, hinner⟩
  · rw [heq]
    exact Nat.le_refl _
  · have hbegun : w.inner.lifetimes.length ≤ (w.inner.beginLifetime p).lifetimes.length := by simp
    rw [hinner]
    exact hbegun

theorem length_dispose : w.dispose.inner.lifetimes.length = w.inner.lifetimes.length := by
  rw [inner_dispose]
  exact Handler.length_endLifetime _

theorem length_act (number : Nat) (effect : Effect) :
    (w.act number effect).inner.lifetimes.length = w.inner.lifetimes.length := by
  cases effect with
  | enter phase => exact Handler.length_enter _ number phase
  | _ => rfl

theorem length_release (guarded : Bool) :
    (w.release guarded).inner.lifetimes.length = w.inner.lifetimes.length := by
  rw [release_eq]
  rfl

end Watch

/-! ### Every moment of a life -/

namespace Life

variable {w : Watch} {flights : List Flight}

theorem settled (h : Life w flights) : w.Settled := by
  induction h with
  | start bridge settings registry sink => exact Watch.settled_start _ rfl
  | aside h haside ih => exact ih.aside haside
  | activate h schedule ih => exact ih.activate schedule
  | dispose h ih => exact ih.dispose
  | refresh h hcycle hactive hfree hlifetime ih =>
    exact ih.of_neutral (fun _ => rfl) rfl ⟨[_], rfl, by simp [Event.isNeutral]⟩
  | rerun h hlifetime ih => exact ih.note rfl
  | act h ih => exact ih.act _ _
  | ask h reply ih => exact ih.note rfl
  | conclude h ih => exact (ih.conclude _ _).release _

/-- A cycle in flight was made in a lifetime that has begun. -/
theorem number_lt (h : Life w flights) :
    ∀ flight ∈ flights, flight.number < w.inner.lifetimes.length := by
  induction h with
  | start bridge settings registry sink => simp
  | aside h haside ih => rwa [haside.lifetimes]
  | activate h schedule ih =>
    exact fun flight hflight => Nat.lt_of_lt_of_le (ih flight hflight) (Watch.length_activate _)
  | dispose h ih => rwa [Watch.length_dispose]
  | refresh h hcycle hactive hfree hlifetime ih =>
    exact List.forall_mem_cons.2 ⟨(List.getElem?_eq_some_iff.1 hlifetime).1, ih⟩
  | rerun h hlifetime ih =>
    exact List.forall_mem_cons.2 ⟨(List.getElem?_eq_some_iff.1 hlifetime).1, ih⟩
  | act h ih =>
    rw [Watch.length_act]
    exact List.forall_mem_cons.2 (List.forall_mem_cons.1 ih)
  | ask h reply ih => exact List.forall_mem_cons.2 (List.forall_mem_cons.1 ih)
  | conclude h ih =>
    rw [Watch.length_release, Watch.inner_conclude, Handler.length_enter]
    exact (List.forall_mem_cons.1 ih).2

end Life

/-- What holds at every moment of a life. -/
structure Watch.Isolated (w : Watch) (flights : List Flight) : Prop where
  /-- The lifetimes were begun in the order of their numbers, each of them once. -/
  begun : w.journal.begun = List.range w.inner.lifetimes.length
  /-- Every cycle in flight was made in one of them. -/
  made : ∀ flight ∈ flights, flight.number < w.inner.lifetimes.length
  /-- A lifetime is open exactly while it lasts. -/
  isOpen_iff : ∀ number, w.inner.isOpen number = true ↔ w.journal.Lasts number
  /-- At most one lifetime is open. -/
  unique : ∀ number other, w.inner.isOpen number = true → w.inner.isOpen other = true →
    number = other
  /-- One is open exactly while the handler is active. -/
  isActive_iff : w.inner.isActive = true ↔ ∃ number, w.inner.isOpen number = true
  /-- The sink has received what the milestones account for, and nothing else. -/
  announcements : w.journal.announcements = w.journal.deliveries
  /-- If a cycle ends now, all that it publishes reaches the sink if the lifetime in which it was
  made lasts, and nothing does if not.  It publishes all of its outcome, unless the sink does not
  take an update; then nothing follows that one. -/
  conclude : ∀ number outcome, ∃ told, told <+: outcome.announcements ∧
    (w.conclude number outcome).2.journal.announcements = w.journal.announcements ++
      (if w.journal.Lasts number then told else []) ∧
    ((w.conclude number outcome).1 = none → told = outcome.announcements) ∧
    (w.inner.sink = .steady → (w.conclude number outcome).1 = none)

theorem Life.isolated {w : Watch} {flights : List Flight} (h : Life w flights) :
    w.Isolated flights where
  begun := h.settled.begun
  made := h.number_lt
  isOpen_iff number := by rw [h.settled.isOpen_iff, Journal.lasts_iff]
  unique number other hnumber hother := by
    have hcurrent := (h.settled.isOpen_iff number).1 hnumber
    rw [(h.settled.isOpen_iff other).1 hother, Option.some.injEq] at hcurrent
    exact hcurrent.symm
  isActive_iff := by
    rw [Handler.isActive_eq]
    constructor
    · exact fun hopen => ⟨_, hopen⟩
    · rintro ⟨number, hopen⟩
      have hlast := h.settled.current_last number ((h.settled.isOpen_iff number).1 hopen)
      rwa [← hlast]
  announcements := h.settled.announcements
  conclude := h.settled.announcements_conclude

/-- **The lifetimes of a handler are isolated from each other.**  Every list of steps, with the
steps within its requests and the runs of its jobs, is a life; a step keeps to a life whatever takes
place within its requests, as long as that does.  At every moment of a life at most one lifetime is
open, one exactly if the handler is active, and what a cycle publishes reaches the sink exactly if
since the activation in which it was made the handler was neither activated again nor disposed
of. -/
theorem lifetimes_isolated :
    (∀ bridge settings registry sink list,
      Life (Watch.steps list (Timed.start (.create bridge settings registry sink))).2 []) ∧
    (∀ nested, Life.Nestable nested → Life.Nestable (Watch.perform nested)) ∧
    ∀ w flights, Life w flights → w.Isolated flights :=
  ⟨fun bridge settings registry sink list => (Life.start bridge settings registry sink).steps list,
    fun _ hnested step _ _ h => h.yield hnested step, fun _ _ h => h.isolated⟩

/-- A handler before anything happened. -/
def watchedPlace : Watch :=
  Timed.start (.create ⟨.connect { baseUrl := "/v1" }, 60⟩ { location := "51.2,7.1" } .builtIn)

/-- A life in which the handler is disposed of and activated again while a request of its cycle is
pending. -/
def interrupted : Watch :=
  (Watch.steps [.activate false,
      .respond [.mk (.response ⟨404, "", "Not Found"⟩) [.dispose, .activate false]], .refresh]
    watchedPlace).2

/-- A life in which a cycle reads both measurements. -/
def undisturbed : Watch :=
  (Watch.steps [.activate false,
      .respond ([
          "\x7b\"value\":[\x7b\"@iot.id\":1,\"location\":\x7b\"coordinates\":[7,51]\x7d\x7d]\x7d",
          "\x7b\"value\":[\x7b\"Observations\":[\x7b\"result\":21.5\x7d]\x7d]\x7d",
          "\x7b\"value\":[\x7b\"Observations\":[\x7b\"result\":64\x7d]\x7d]\x7d"].map
        fun body => .plain (.response ⟨200, body, "OK"⟩)), .refresh] watchedPlace).2

/-- Of the interrupted cycle nothing reaches the sink, so there are only the two activations; of the
other one both values do, and the status after them. -/
theorem interrupted_isolated :
    Life interrupted [] ∧ interrupted.Isolated [] ∧ Life undisturbed [] ∧
      undisturbed.Isolated [] ∧
      interrupted.journal.requests.length = 1 ∧
      interrupted.journal.deliveries.map (announcementLine "sink") =
        (["sink status: ONLINE", "sink status: ONLINE"] : List RawText) ∧
      undisturbed.journal.deliveries.map (announcementLine "sink") =
        (["sink status: ONLINE", "sink#temperature = 21.5 °C", "sink#humidity = 64.0",
          "sink status: ONLINE"] : List RawText) := by
  have hlife : Life interrupted [] := lifetimes_isolated.1 _ _ _ _ _
  have hother : Life undisturbed [] := lifetimes_isolated.1 _ _ _ _ _
  have hisolated := lifetimes_isolated.2.2 interrupted [] hlife
  have hundisturbed := lifetimes_isolated.2.2 undisturbed [] hother
  refine ⟨hlife, hisolated, hother, hundisturbed, by decide +kernel, ?_, ?_⟩
  · rw [← hisolated.announcements]
    decide +kernel
  · rw [← hundisturbed.announcements]
    decide +kernel

end StationWatch
