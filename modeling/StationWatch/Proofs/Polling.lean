import StationWatch.Proofs.Exchange
import StationWatch.Proofs.Exclusion
import StationWatch.Proofs.Jobs

/-!
# Polling

The job of an active handler runs one cycle, waits, and runs the next one, until it is cancelled.
As long as no steps take place within requests, a cycle of a handler is a cycle of a session with
the replies that are left, and the next one goes on with the replies that it leaves.  Whatever the
outcome of a cycle is, it is published, the guard is given back, and the job goes on.

## Main definitions

* `Journal.milestones`, `Journal.waits`, `Journal.statuses` — further views of a journal.
* `Journal.Recounts` — what entries tell of a lifetime from its beginning.
* `Dialogue.repeated` — a dialogue carried out several times in a row.
* `Handler.apart` — a handler apart from its phases and its replies.
* `Handler.Attends` — a handler whose next refresh runs a cycle.
* `Watch.Polled` — what cycles in a row and the waits between them leave.

## Main results

* `Watch.run_eq_session` — a dialogue of a handler is one of a session.
* `Watch.refresh_plain` — a refresh is one cycle.
* `Watch.rounds_plain`, `Watch.runJob_plain` — a job is one cycle for each wait.
* `Watch.Ready.runJob` — an activation and its job.
* `polling_survives_failures` — how often a job polls, whatever comes of it.

## References

`SPEC_FULL.md`, sections 1 and 4.3, on failures that end no schedule.
-/

namespace StationWatch

/-! ### Views of a journal -/

namespace Event

/-- The milestone of an entry, if it is one. -/
def milestone? : Event → Option Milestone
  | .reached milestone => some milestone
  | _ => none

/-- The seconds that a job waits with an entry, if it does. -/
def wait? : Event → Option Float
  | .wait seconds => some seconds
  | _ => none

/-- Whether an entry is one of a dialogue. -/
def isExchanged : Event → Bool
  | .request _ => true
  | .pause _ => true
  | .logged _ => true
  | _ => false

end Event

/-- The status of an announcement, if it is one. -/
def Announcement.status? : Announcement → Option StatusUpdate
  | .status update => some update
  | .value _ _ => none

/-- An outcome publishes one status. -/
theorem Outcome.filterMap_status (outcome : Outcome) :
    outcome.announcements.filterMap Announcement.status? = [outcome.update] := by
  simp [announcements, List.filterMap_map, Function.comp_def, Announcement.status?]

namespace Journal

/-- The milestones, in order. -/
def milestones (journal : Journal) : List Milestone := journal.reverse.filterMap Event.milestone?

/-- The waits of jobs, in order. -/
def waits (journal : Journal) : List Float := journal.reverse.filterMap Event.wait?

/-- The statuses that reached the sink, in order. -/
def statuses (journal : Journal) : List StatusUpdate :=
  journal.announcements.filterMap Announcement.status?

section

variable (later news : Journal)

theorem milestones_append : milestones (later ++ news) = news.milestones ++ later.milestones := by
  simp [milestones]

theorem waits_append : waits (later ++ news) = news.waits ++ later.waits := by simp [waits]

theorem announcements_append :
    announcements (later ++ news) = news.announcements ++ later.announcements := by
  simp [announcements]

theorem statuses_append : statuses (later ++ news) = news.statuses ++ later.statuses := by
  simp [statuses, announcements_append]

theorem requests_append : requests (later ++ news) = news.requests ++ later.requests := by
  simp [requests]

end

/-- What entries tell of a lifetime that begins. -/
structure Opens (number : Nat) (news : Journal) : Prop where
  milestones : news.milestones = [.activated number]
  announcements : news.announcements = [.status .online]
  requests : news.requests = []
  waits : news.waits = []
  closed : .closed ∉ news

theorem Opens.statuses {number : Nat} {news : Journal} (h : Opens number news) :
    news.statuses = [.online] := by
  unfold Journal.statuses
  rw [h.announcements]
  rfl

/-- What entries tell of the cycles of a lifetime, one after another, and of waits. -/
structure Tells (number : Nat) (cycles : List (Exchange Outcome)) (waits : List Float)
    (news : Journal) : Prop where
  /-- Each cycle begins and ends before the next one does. -/
  milestones : news.milestones =
    cycles.flatMap fun cycle => [.began number, .concluded number cycle.result]
  /-- Each outcome is published. -/
  announcements : news.announcements = cycles.flatMap fun cycle => cycle.result.announcements
  /-- The requests are those of the cycles. -/
  requests : news.requests = cycles.flatMap Exchange.requests
  /-- The job waits in between. -/
  waits : news.waits = waits
  /-- The connections are not released. -/
  closed : .closed ∉ news

variable {number : Nat} {cycles more : List (Exchange Outcome)} {waited waits : List Float}
variable {news later : Journal}

/-- What was told first, and what is told later. -/
theorem Tells.append (h : Tells number cycles waited news)
    (hlater : Tells number more waits later) :
    Tells number (cycles ++ more) (waited ++ waits) (later ++ news) where
  milestones := by
    rw [milestones_append, h.milestones, hlater.milestones, List.flatMap_append]
  announcements := by
    rw [announcements_append, h.announcements, hlater.announcements, List.flatMap_append]
  requests := by
    rw [requests_append, h.requests, hlater.requests, List.flatMap_append]
  waits := by
    rw [waits_append, h.waits, hlater.waits]
  closed := by
    rw [List.mem_append]
    rintro (hmem | hmem)
    · exact hlater.closed hmem
    · exact h.closed hmem

/-- Each cycle publishes one status. -/
theorem Tells.statuses (h : Tells number cycles waited news) :
    news.statuses = cycles.map fun cycle => cycle.result.update := by
  unfold Journal.statuses
  rw [h.announcements, List.filterMap_flatMap, List.map_eq_flatMap]
  simp only [Outcome.filterMap_status]

/-- What entries tell of a lifetime from its beginning: of its activation, of its cycles, one after
another, and of the waits between them. -/
structure Recounts (number : Nat) (cycles : List (Exchange Outcome)) (waits : List Float)
    (news : Journal) : Prop where
  milestones : news.milestones = .activated number ::
    cycles.flatMap fun cycle => [.began number, .concluded number cycle.result]
  announcements : news.announcements =
    .status .online :: cycles.flatMap fun cycle => cycle.result.announcements
  /-- Each cycle publishes one status. -/
  statuses : news.statuses = .online :: cycles.map fun cycle => cycle.result.update
  requests : news.requests = cycles.flatMap Exchange.requests
  waits : news.waits = waits
  closed : .closed ∉ news

/-- A lifetime begins, and cycles follow. -/
theorem Opens.recounts {opening : Journal} (h : Opens number opening)
    (htold : Tells number cycles waits news) : Recounts number cycles waits (news ++ opening) where
  milestones := by
    rw [milestones_append, h.milestones, htold.milestones, List.singleton_append]
  announcements := by
    rw [announcements_append, h.announcements, htold.announcements, List.singleton_append]
  statuses := by
    rw [statuses_append, h.statuses, htold.statuses, List.singleton_append]
  requests := by
    rw [requests_append, h.requests, htold.requests, List.nil_append]
  waits := by
    rw [waits_append, h.waits, htold.waits, List.nil_append]
  closed := by
    rw [List.mem_append]
    rintro (hmem | hmem)
    · exact htold.closed hmem
    · exact h.closed hmem

theorem tells_join (limit : Option Float) : Tells number [] [] [.join limit] :=
  ⟨rfl, rfl, rfl, rfl, by simp⟩

theorem tells_wait (seconds : Float) : Tells number [] [seconds] [.wait seconds] :=
  ⟨rfl, rfl, rfl, rfl, by simp⟩

end Journal

/-! ### Dialogues in a row -/

/-- A dialogue several times in a row, each time with the replies that are left. -/
def Dialogue.repeated {α : Type} (d : Dialogue α) : Nat → List Reply → List (Exchange α)
  | 0, _ => []
  | n + 1, replies => d.exchange replies :: repeated d n (d.exchange replies).rest

theorem Dialogue.length_repeated {α : Type} (d : Dialogue α) (n : Nat) (replies : List Reply) :
    (d.repeated n replies).length = n := by
  induction n generalizing replies with
  | zero => rfl
  | succ n ih => rw [repeated, List.length_cons, ih]

namespace Session

/-- A dialogue adds nothing to the journal but its own entries. -/
theorem exists_exchanged {α : Type} (d : Dialogue α) (s : Session) :
    ∃ news, (s.run d).2.journal = news ++ s.journal ∧
      ∀ event ∈ news, event.isExchanged = true := by
  have hnote (t : Session) (event : Event) (hevent : event.isExchanged = true)
      (ht : ∃ news, t.journal = news ++ s.journal ∧ ∀ event ∈ news, event.isExchanged = true) :
      ∃ news, (t.note event).journal = news ++ s.journal ∧
        ∀ event ∈ news, event.isExchanged = true := by
    obtain ⟨news, hjournal, hnews⟩ := ht
    exact ⟨event :: news, by rw [journal_note, hjournal, List.cons_append],
      List.forall_mem_cons.2 ⟨hevent, hnews⟩⟩
  refine Dialogue.run_preserves reply perform
    (P := fun t => ∃ news, t.journal = news ++ s.journal ∧
      ∀ event ∈ news, event.isExchanged = true) ?_ ?_ d s ⟨[], rfl, by simp⟩
  · intro r t ht
    rw [reply_eq]
    exact hnote t (.request r) rfl ht
  · intro effect t ht
    cases effect with
    | pause seconds => exact hnote t (.pause seconds) rfl ht
    | log entry => exact hnote t (.logged entry) rfl ht
    | enter phase => exact ht

end Session

/-- The entries of a dialogue tell of its requests only. -/
theorem Journal.views_of_exchanged {news : Journal}
    (h : ∀ event ∈ news, event.isExchanged = true) :
    news.milestones = [] ∧ news.waits = [] ∧ news.announcements = [] ∧ .closed ∉ news := by
  have hnone {α : Type} (f : Event → Option α)
      (hf : ∀ event, event.isExchanged = true → f event = none) :
      news.reverse.filterMap f = [] := by
    rw [List.filterMap_eq_nil_iff]
    intro event hevent
    exact hf event (h event (List.mem_reverse.1 hevent))
  refine ⟨hnone _ ?_, hnone _ ?_, hnone _ ?_, fun hclosed => by cases h _ hclosed⟩
  · intro event hevent
    cases event <;> first | rfl | cases hevent
  · intro event hevent
    cases event <;> first | rfl | cases hevent
  · intro event hevent
    cases event <;> first | rfl | cases hevent

theorem Journal.views_of_announced (announcements : List Announcement) :
    let news : Journal := announcements.reverse.map .announced
    news.milestones = [] ∧ news.waits = [] ∧ news.requests = [] ∧
      news.announcements = announcements ∧ .closed ∉ news := by
  simp [milestones, waits, requests, Journal.announcements, List.filterMap_map, Function.comp_def,
    Event.milestone?, Event.wait?, Event.request?, Event.announcement?]

/-- The entries of a whole cycle: its beginning, those of its dialogue, what it publishes, and its
end. -/
theorem Journal.tells_cycle (number : Nat) (cycle : Exchange Outcome) {exchanged : Journal}
    (h : ∀ event ∈ exchanged, event.isExchanged = true)
    (hrequests : exchanged.requests = cycle.requests) :
    Tells number [cycle] []
      (.reached (.concluded number cycle.result) ::
        (cycle.result.announcements.reverse.map .announced ++
          (exchanged ++ [.reached (.began number)]))) := by
  obtain ⟨hmilestones, hwaits, hannounced, hclosed⟩ := views_of_exchanged h
  obtain ⟨hmilestones', hwaits', hrequests', hannounced', hclosed'⟩ :=
    views_of_announced cycle.result.announcements
  change Tells number [cycle] [] ([_] ++ (_ ++ (_ ++ _)))
  constructor
  · rw [milestones_append, milestones_append, milestones_append, hmilestones, hmilestones']
    rfl
  · rw [announcements_append, announcements_append, announcements_append, hannounced, hannounced']
    simp [Journal.announcements, List.filterMap_cons, Event.announcement?]
  · rw [requests_append, requests_append, requests_append, hrequests, hrequests']
    simp [requests, List.filterMap_cons, Event.request?]
  · rw [waits_append, waits_append, waits_append, hwaits, hwaits']
    rfl
  · simp [hclosed]

/-! ### Handlers -/

namespace Handler

/-- A handler apart from its phases and its replies. -/
def apart (h : Handler) : Handler :=
  { h with lifetimes := h.lifetimes.map fun l => { l with phase := .idle }, script := [] }

theorem apart_enter (h : Handler) (number : Nat) (phase : Phase) :
    (h.enter number phase).apart = h.apart := by
  have hmap : (h.lifetimes.modify number fun l => { l with phase }).map
      (fun l => { l with phase := .idle }) =
        h.lifetimes.map fun l => { l with phase := .idle } := by
    refine List.ext_getElem? fun i => ?_
    rw [List.getElem?_map, List.getElem?_modify, List.getElem?_map]
    cases h.lifetimes[i]? with
    | none => rfl
    | some l => by_cases hi : number = i <;> simp [hi]
  unfold apart enter
  simp only [hmap]

theorem isActive_apart (h : Handler) : h.apart.isActive = h.isActive := by
  unfold isActive apart
  rw [List.getLast?_map]
  cases h.lifetimes.getLast? <;> rfl

theorem isOpen_apart (h : Handler) (number : Nat) : h.apart.isOpen number = h.isOpen number := by
  unfold isOpen apart
  rw [List.getElem?_map]
  cases h.lifetimes[number]? <;> rfl

/-- The cycle of a handler at a place. -/
def programAt (h : Handler) (p : ReferencePoint) : Dialogue Outcome :=
  Cycle.program h.service h.registry h.settings p

/-- A handler whose next refresh runs the cycle of an open lifetime. -/
structure Attends (h : Handler) (number : Nat) (p : ReferencePoint) : Prop where
  cycle : h.cycle = some number
  lifetime : ∃ phase, h.lifetimes[number]? = some ⟨p, true, phase⟩
  active : h.isActive = true
  /-- No other refresh is running. -/
  free : h.isRunning = false
  /-- The sink takes every update. -/
  steady : h.sink = .steady

theorem attends_apart_iff {h : Handler} {number : Nat} {p : ReferencePoint} :
    h.apart.Attends number p ↔ h.Attends number p := by
  have hlifetime : (∃ phase, h.apart.lifetimes[number]? = some ⟨p, true, phase⟩) ↔
      ∃ phase, h.lifetimes[number]? = some ⟨p, true, phase⟩ := by
    unfold apart
    rw [List.getElem?_map]
    cases hl : h.lifetimes[number]? with
    | none => simp
    | some l =>
      obtain ⟨reference, isOpen, phase⟩ := l
      simp
  constructor
  · intro hattends
    exact ⟨hattends.cycle, hlifetime.1 hattends.lifetime,
      h.isActive_apart.symm.trans hattends.active, hattends.free, hattends.steady⟩
  · intro hattends
    exact ⟨hattends.cycle, hlifetime.2 hattends.lifetime,
      h.isActive_apart.trans hattends.active, hattends.free, hattends.steady⟩

theorem Attends.isOpen {h : Handler} {number : Nat} {p : ReferencePoint}
    (hattends : h.Attends number p) : h.isOpen number = true := by
  obtain ⟨phase, hlifetime⟩ := hattends.lifetime
  rw [Handler.isOpen, hlifetime]
  rfl

end Handler

namespace Watch

variable {nested : Nested} {w : Watch} {number : Nat} {p : ReferencePoint} {replies : List Reply}

/-- What cycles in a row and the waits between them leave: the handler apart from phases and
replies, and a journal that tells of them. -/
structure Polled (number : Nat) (cycles : List (Exchange Outcome)) (waits : List Float)
    (w w' : Watch) : Prop where
  apart : w'.inner.apart = w.inner.apart
  journal : ∃ news, w'.journal = news ++ w.journal ∧ Journal.Tells number cycles waits news

theorem Polled.trans {cycles more : List (Exchange Outcome)} {waited waits : List Float}
    {w' w'' : Watch} (h : Polled number cycles waited w w')
    (hmore : Polled number more waits w' w'') :
    Polled number (cycles ++ more) (waited ++ waits) w w'' where
  apart := hmore.apart.trans h.apart
  journal := by
    obtain ⟨news, hjournal, htold⟩ := h.journal
    obtain ⟨later, hlater, hmore⟩ := hmore.journal
    exact ⟨later ++ news, by rw [hlater, hjournal, List.append_assoc], htold.append hmore⟩

/-- What was polled attends as before. -/
theorem Polled.attends {cycles : List (Exchange Outcome)} {waits : List Float} {w' : Watch}
    (h : Polled number cycles waits w w') (hattends : w.inner.Attends number p) :
    w'.inner.Attends number p := by
  rw [← Handler.attends_apart_iff, h.apart]
  exact Handler.attends_apart_iff.2 hattends

theorem Polled.programAt {cycles : List (Exchange Outcome)} {waits : List Float} {w' : Watch}
    (h : Polled number cycles waits w w') : w'.inner.programAt p = w.inner.programAt p := by
  have hprogram := congrArg (fun handler => handler.programAt p) h.apart
  exact hprogram

/-! ### A cycle of a handler -/

/-- A request without steps in it takes the next reply. -/
theorem reply_plain (hscript : w.inner.script = replies.map .plain) (request : Request) :
    reply nested request w = (replies.headD exhausted,
      (w.note (.request request)).update ({ · with script := replies.tail.map .plain })) := by
  unfold reply
  cases replies with
  | nil =>
    have hnone : (w.note (.request request)).inner.script = [] := hscript
    have hsame : (w.note (.request request)).update
        ({ · with script := ([] : List Reply).tail.map .plain }) = w.note (.request request) := by
      unfold Timed.update
      rw [List.tail_nil, List.map_nil, ← hnone]
    simp only [hnone, hsame, List.headD_nil]
  | cons next rest =>
    have hsome : (w.note (.request request)).inner.script = .plain next :: rest.map .plain :=
      hscript
    simp only [hsome]
    rfl

/-- A dialogue of a handler without steps in its requests is one of a session. -/
theorem run_eq_session (nested : Nested) (number : Nat) {α : Type} (d : Dialogue α) {w : Watch}
    {s : Session} (hscript : w.inner.script = s.replies.map .plain)
    (hjournal : w.journal = s.journal) :
    let ran := d.run (reply nested) (act number) w
    ran.1 = (s.run d).1 ∧ ran.2.journal = (s.run d).2.journal ∧
      ran.2.inner.script = (s.run d).2.replies.map .plain ∧
      ran.2.inner.apart = w.inner.apart ∧ ran.2.table = w.table ∧ ran.2.running = w.running := by
  unfold Session.run
  induction d generalizing w s with
  | done result => exact ⟨rfl, hjournal, hscript, rfl, rfl, rfl⟩
  | act effect rest ih =>
    have hkept : (w.act number effect).inner.script = (s.perform effect).replies.map .plain ∧
        (w.act number effect).journal = (s.perform effect).journal ∧
        (w.act number effect).inner.apart = w.inner.apart ∧
        (w.act number effect).table = w.table ∧ (w.act number effect).running = w.running := by
      cases effect with
      | pause seconds => exact ⟨hscript, congrArg (_ :: ·) hjournal, rfl, rfl, rfl⟩
      | log entry => exact ⟨hscript, congrArg (_ :: ·) hjournal, rfl, rfl, rfl⟩
      | enter phase => exact ⟨hscript, hjournal, w.inner.apart_enter number phase, rfl, rfl⟩
    obtain ⟨hscript', hjournal', hapart, htable, hrunning⟩ := hkept
    obtain ⟨hresult, hnews, hleft, hapart', htable', hrunning'⟩ := ih hscript' hjournal'
    exact ⟨hresult, hnews, hleft, hapart'.trans hapart, htable'.trans htable,
      hrunning'.trans hrunning⟩
  | ask request next ih =>
    rw [Dialogue.run_ask, Dialogue.run_ask, reply_plain hscript, Session.reply_eq]
    exact ih _ rfl (congrArg (_ :: ·) hjournal)

/-- Without steps in its requests a dialogue of a handler is the exchange with its replies. -/
theorem run_plain (nested : Nested) (number : Nat) {α : Type} (d : Dialogue α)
    (hscript : w.inner.script = replies.map .plain) :
    ∃ ended exchanged,
      d.run (reply nested) (act number) w = ((d.exchange replies).result, ended) ∧
      ended.journal = exchanged ++ w.journal ∧
      (∀ event ∈ exchanged, event.isExchanged = true) ∧
      exchanged.requests = (d.exchange replies).requests ∧
      ended.inner.script = (d.exchange replies).rest.map .plain ∧
      ended.inner.apart = w.inner.apart ∧ ended.table = w.table ∧ ended.running = w.running := by
  obtain ⟨hresult, hjournal, hleft, hapart, htable, hrunning⟩ :=
    @run_eq_session nested number α d w ⟨replies, w.journal, .idle⟩ hscript rfl
  obtain ⟨houtcome, hreplies, hsent⟩ := (Session.mk replies w.journal .idle).run_eq_exchange d
  obtain ⟨exchanged, hexchanged, hall⟩ := (Session.mk replies w.journal .idle).exists_exchanged d
  rw [hexchanged, Journal.requests_append] at hsent
  rw [hreplies] at hleft
  exact ⟨_, exchanged, Prod.ext (hresult.trans houtcome) rfl, hjournal.trans hexchanged, hall,
    List.append_cancel_left hsent, hleft, hapart, htable, hrunning⟩

/-- While the lifetime of a cycle is open, a sink that takes every update is told all of its
outcome. -/
theorem conclude_plain (hopen : w.inner.isOpen number = true) (hsteady : w.inner.sink = .steady)
    (outcome : Outcome) :
    w.conclude number outcome = (none, { w with
      inner := w.inner.enter number outcome.phase
      journal := .reached (.concluded number outcome) ::
        (outcome.announcements.reverse.map Event.announced ++ w.journal) }) := by
  obtain ⟨fault, ending, told, hends, heq⟩ := w.exists_concludes number outcome
  have hnone := conclude_of_steady hsteady number outcome
  rw [heq] at hnone ⊢
  rw [hopen] at hends
  cases hends with
  | whole => rfl
  | broken htold => cases hnone

/-- **A refresh is one cycle.**  Without steps in its requests it publishes the outcome that the
replies make, leaves the replies that the cycle leaves, and gives the guard back. -/
theorem refresh_plain (nested : Nested) (hattends : w.inner.Attends number p)
    (hscript : w.inner.script = replies.map .plain) :
    let cycle := (w.inner.programAt p).exchange replies
    ∃ w', refresh nested w = (.ok (some cycle.result), w') ∧ Polled number [cycle] [] w w' ∧
      w'.inner.script = cycle.rest.map .plain ∧ w'.table = w.table ∧ w'.running = w.running := by
  intro cycle
  obtain ⟨phase, hlifetime⟩ := hattends.lifetime
  have hrefresh := @refresh_eq_run w nested number _ hattends.cycle hattends.active hattends.free
    hlifetime
  obtain ⟨ended, exchanged, hrun, hjournal, hall, hrequests, hleft, hapart, htable, hrunning⟩ :=
    @run_plain (w.takeGuard.note (.reached (.began number))) replies nested number _
      (w.inner.programAt p) hscript
  have hprogram : w.programOf ⟨p, true, phase⟩ = w.inner.programAt p := rfl
  have hopen : ended.inner.isOpen number = true := by
    rw [← Handler.isOpen_apart, hapart, Handler.isOpen_apart]
    exact hattends.isOpen
  have hsteady : ended.inner.sink = .steady :=
    (congrArg Handler.sink hapart).trans hattends.steady
  rw [hprogram, hrun] at hrefresh
  simp only [conclude_plain hopen hsteady] at hrefresh
  refine ⟨_, hrefresh, ⟨?_, _, ?_, Journal.tells_cycle number cycle hall hrequests⟩, hleft, htable,
    hrunning⟩
  · -- The guard was free before it was taken, and is so again.
    have hheld : (ended.inner.enter number cycle.result.phase).apart =
        { w.inner.apart with isRunning := true } := by
      rw [Handler.apart_enter]
      exact hapart
    have hfree : w.inner.apart.isRunning = false := hattends.free
    calc { (ended.inner.enter number cycle.result.phase) with isRunning := false }.apart
        = { (ended.inner.enter number cycle.result.phase).apart with isRunning := false } := rfl
      _ = { w.inner.apart with isRunning := false } := by rw [hheld]
      _ = w.inner.apart := by rw [← hfree]
  · change .reached (.concluded number cycle.result) ::
      (cycle.result.announcements.reverse.map Event.announced ++ ended.journal) = _
    rw [hjournal]
    simp only [List.cons_append, List.append_assoc, List.nil_append]
    rfl

/-- So is the callback of a job, which raises nothing. -/
theorem guarded_plain (nested : Nested) (hattends : w.inner.Attends number p)
    (hscript : w.inner.script = replies.map .plain) :
    Timed.guarded (callback nested) w = (refresh nested w).2 := by
  obtain ⟨w', hrefresh, -⟩ := refresh_plain nested hattends hscript
  simp [Timed.guarded, callback, hrefresh]

end Watch

/-! ### A job -/

theorem Timetable.jobs_modify (t : Timetable) (number : Nat) (f : Job → Job) :
    (t.modify number f).jobs[number]? = (t.jobs[number]?).map f :=
  List.getElem?_modify_eq f number t.jobs

/-- A wait of a job spends one of the waits that are left, or cancels the job if none is. -/
theorem Timed.wait_eq {σ : Type} {w : Timed σ} {number : Nat} {job : Job}
    (h : w.table.jobs[number]? = some job) (seconds : Float) :
    w.wait number seconds = (job.afterWait.1,
      (w.note (.wait seconds)).retime fun t => t.modify number fun _ => job.afterWait.2) := by
  have hjob : (w.note (.wait seconds)).table.jobs[number]? = some job := h
  simp only [wait, Timetable.afterWait, hjob]
  rfl

theorem Timetable.isCancelled_of_jobs {t : Timetable} {number : Nat} {job : Job}
    (hjob : t.jobs[number]? = some job) (hlive : job.cancelled = false) :
    t.isCancelled number = false := by
  rw [isCancelled, hjob]
  exact hlive

/-- The wait that finds no other one left cancels the job. -/
theorem Job.afterWait_last {job : Job} (hlive : job.cancelled = false) (hlast : job.budget = 0) :
    job.afterWait = (true, { job with budget := 0, cancelled := true }) := by
  obtain ⟨_, _, _, _, _, _⟩ := job
  subst hlive hlast
  rfl

/-- Any other wait passes. -/
theorem Job.afterWait_more {job : Job} {left : Nat} (hlive : job.cancelled = false)
    (hmore : job.budget = left + 1) : job.afterWait = (false, { job with budget := left }) := by
  obtain ⟨_, _, _, _, _, _⟩ := job
  subst hlive hmore
  rfl

/-- A job that is not cancelled runs, waits, and goes on unless it must stop. -/
theorem Timed.rounds_succ {σ : Type} {callback : Timed σ → Timed σ} {w : Timed σ} {number : Nat}
    {period : Float} {limit : Nat} (h : w.table.isCancelled number = false) :
    rounds callback number period (limit + 1) w =
      let after := ((callback w).retime (·.countRun number)).wait number period
      if after.1 then after.2 else rounds callback number period limit after.2 := by
  rw [rounds, h]
  rfl

/-- A job waits for its first run, and goes on unless it must stop. -/
theorem Timed.body_eq {σ : Type} (callback : Timed σ → Timed σ) (number : Nat) (job : Job)
    (limit : Nat) (w : Timed σ) :
    body callback number job limit w =
      let waited := ({ w with running := some number } : Timed σ).wait number job.initialDelay
      let ran := if waited.1 then waited.2 else
        rounds callback number job.period limit waited.2
      { ran with running := w.running } := rfl

namespace Watch

variable {w : Watch} {number : Nat} {p : ReferencePoint} {replies : List Reply}

/-- A wait of a job, as part of polling. -/
theorem polled_wait {k : Nat} {job : Job} (h : w.table.jobs[k]? = some job) (number : Nat)
    (seconds : Float) :
    (w.wait k seconds).1 = job.afterWait.1 ∧
      Polled number [] [seconds] w (w.wait k seconds).2 ∧
      (w.wait k seconds).2.table.jobs[k]? = some job.afterWait.2 ∧
      (w.wait k seconds).2.inner = w.inner ∧ (w.wait k seconds).2.running = w.running := by
  rw [Timed.wait_eq h]
  refine ⟨rfl, ⟨rfl, [_], rfl, Journal.tells_wait seconds⟩, ?_, rfl, rfl⟩
  change ((w.table.modify k _).jobs[k]?) = _
  rw [Timetable.jobs_modify, h]
  rfl

/-- One run of a job and the wait after it. -/
theorem round_plain (nested : Nested) {k : Nat} (period : Float) {job : Job}
    (hattends : w.inner.Attends number p) (hscript : w.inner.script = replies.map .plain)
    (hjob : w.table.jobs[k]? = some job) :
    let cycle := (w.inner.programAt p).exchange replies
    let counted : Job := { job with runs := job.runs + 1 }
    let after := ((Timed.guarded (callback nested) w).retime (·.countRun k)).wait k period
    after.1 = counted.afterWait.1 ∧ Polled number [cycle] [period] w after.2 ∧
      after.2.inner.script = cycle.rest.map .plain ∧
      after.2.table.jobs[k]? = some counted.afterWait.2 ∧ after.2.running = w.running := by
  intro cycle counted
  obtain ⟨w', hrefresh, hpolled, hleft, htable, hrunning⟩ :=
    refresh_plain nested hattends hscript
  have hcounted : (w'.retime (·.countRun k)).table.jobs[k]? = some counted := by
    change (w'.table.modify k _).jobs[k]? = _
    rw [Timetable.jobs_modify, htable, hjob]
    rfl
  rw [guarded_plain nested hattends hscript, hrefresh]
  obtain ⟨hended, hwaited, hafter, hinner, hrunning'⟩ := polled_wait hcounted number period
  have hran : Polled number [cycle] [] w (w'.retime (·.countRun k)) :=
    ⟨hpolled.apart, hpolled.journal⟩
  exact ⟨hended, hran.trans hwaited, (congrArg Handler.script hinner).trans hleft, hafter,
    hrunning'.trans hrunning⟩

/-- **A job goes on after every cycle.**  With so many waits left it runs one cycle more than that,
each with the replies that the one before has left, and is cancelled in the last wait. -/
theorem rounds_plain (nested : Nested) {k : Nat} (period : Float) {job : Job} {left limit : Nat}
    (hlimit : left < limit) (hattends : w.inner.Attends number p)
    (hscript : w.inner.script = replies.map .plain) (hjob : w.table.jobs[k]? = some job)
    (hlive : job.cancelled = false) (hleft : job.budget = left) :
    let after := Timed.rounds (.guarded (callback nested)) k period limit w
    Polled number ((w.inner.programAt p).repeated (left + 1) replies)
        (List.replicate (left + 1) period) w after ∧
      after.table.jobs[k]? =
        some { job with runs := job.runs + (left + 1), budget := 0, cancelled := true } ∧
      after.running = w.running := by
  intro after
  -- Each run leaves one wait less, and the next one finds the replies that are left.
  induction left generalizing w replies job limit with
  | zero =>
    obtain ⟨limit, rfl⟩ := Nat.exists_eq_succ_of_ne_zero (Nat.ne_of_gt hlimit)
    obtain ⟨hended, hpolled, -, hafter, hrunning⟩ :=
      round_plain nested period hattends hscript hjob
    -- No wait is left, so this one cancels the job.
    rw [@Job.afterWait_last { job with runs := job.runs + 1 } hlive hleft] at hended hafter
    have hlast : after =
        (((Timed.guarded (callback nested) w).retime (·.countRun k)).wait k period).2 := by
      refine (Timed.rounds_succ (Timetable.isCancelled_of_jobs hjob hlive)).trans ?_
      simp [hended]
    rw [hlast]
    exact ⟨hpolled, hafter, hrunning⟩
  | succ left ih =>
    obtain ⟨limit, rfl⟩ := Nat.exists_eq_succ_of_ne_zero (Nat.ne_of_gt (Nat.zero_lt_of_lt hlimit))
    obtain ⟨hended, hpolled, hscript', hafter, hrunning⟩ :=
      round_plain nested period hattends hscript hjob
    rw [@Job.afterWait_more { job with runs := job.runs + 1 } left hlive hleft] at hended hafter
    have hnext : after = Timed.rounds (.guarded (callback nested)) k period limit
        (((Timed.guarded (callback nested) w).retime (·.countRun k)).wait k period).2 := by
      refine (Timed.rounds_succ (Timetable.isCancelled_of_jobs hjob hlive)).trans ?_
      simp [hended]
    obtain ⟨hmore, hjob', hrunning'⟩ := ih (Nat.lt_of_succ_lt_succ hlimit)
      (hpolled.attends hattends) hscript' hafter hlive rfl
    have hruns : job.runs + 1 + (left + 1) = job.runs + (left + 1 + 1) := by omega
    rw [hpolled.programAt] at hmore
    rw [hnext, ← hruns]
    exact ⟨hpolled.trans hmore, hjob', hrunning'.trans hrunning⟩

/-- What a job does after its start: so many cycles as it has waits, unless it has none. -/
theorem body_plain (nested : Nested) {k : Nat} {job : Job} {limit : Nat}
    (hattends : w.inner.Attends number p) (hscript : w.inner.script = replies.map .plain)
    (hjob : w.table.jobs[k]? = some job) (hlive : job.cancelled = false)
    (hlimit : job.budget ≤ limit) :
    let after := Timed.body (.guarded (callback nested)) k job limit w
    Polled number ((w.inner.programAt p).repeated job.budget replies)
        (job.initialDelay :: List.replicate job.budget job.period) w after ∧
      after.table.jobs[k]? =
        some { job with runs := job.runs + job.budget, budget := 0, cancelled := true } ∧
      after.running = w.running := by
  intro after
  let entered : Watch := { w with running := some k }
  have hentered : Polled number [] [] w entered := ⟨rfl, [], rfl, rfl, rfl, rfl, rfl, by simp⟩
  obtain ⟨hended, hwaited, hafter, hinner, hrunning⟩ :=
    @polled_wait entered k job hjob number job.initialDelay
  cases hbudget : job.budget with
  | zero =>
    -- The initial delay is the only wait, and cancels the job.
    rw [Job.afterWait_last hlive hbudget] at hended hafter
    have hlast : after = { (entered.wait k job.initialDelay).2 with running := w.running } := by
      refine (Timed.body_eq _ k job limit w).trans ?_
      simp only [entered, hended, if_true]
    rw [hlast]
    exact ⟨⟨(hentered.trans hwaited).apart, (hentered.trans hwaited).journal⟩, hafter, rfl⟩
  | succ left =>
    rw [Job.afterWait_more hlive hbudget] at hended hafter
    have hnext : after = { Timed.rounds (.guarded (callback nested)) k job.period limit
        (entered.wait k job.initialDelay).2 with running := w.running } := by
      refine (Timed.body_eq _ k job limit w).trans ?_
      simp only [entered, hended, Bool.false_eq_true, if_false]
    rw [hbudget] at hlimit
    have hbegun := hentered.trans hwaited
    obtain ⟨hpolled, hjob', -⟩ := rounds_plain nested job.period hlimit (hbegun.attends hattends)
      ((congrArg Handler.script hinner).trans hscript) hafter hlive rfl
    rw [hbegun.programAt] at hpolled
    have hran := hbegun.trans hpolled
    rw [hnext]
    exact ⟨⟨hran.apart, hran.journal⟩, hjob', rfl⟩

/-- **A job polls once for each wait.**  Without steps within requests a job that is not at work yet
runs as many cycles as it is granted waits, and is then cancelled. -/
theorem runJob_plain (nested : Nested) {k : Nat} {job : Job}
    (hattends : w.inner.Attends number p) (hscript : w.inner.script = replies.map .plain)
    (hjob : w.table.jobs[k]? = some job) (hlive : job.cancelled = false)
    (halive : job.alive = true) (hidle : w.running ≠ some k) (n : Nat) (patience : Option Float) :
    let after := runJob nested k n patience w
    Polled number ((w.inner.programAt p).repeated n replies)
        (job.initialDelay :: List.replicate n job.period) w after ∧
      after.table.jobs[k]? = some
        { job with runs := job.runs + n, budget := 0, cancelled := true, alive := false } ∧
      after.running = w.running := by
  intro after
  have hgranted : (w.retime (·.grant k n)).table.jobs[k]? = some { job with budget := n } := by
    change (w.table.modify k _).jobs[k]? = _
    rw [Timetable.jobs_modify, hjob]
    rfl
  have hafter : after = (Timed.body (.guarded (callback nested)) k { job with budget := n }
      (roundLimit w n) ((w.retime (·.grant k n)).note (.join patience))).retime (·.finish k) := by
    change Timed.join _ _ _ _ _ = _
    rw [Timed.join]
    simp only [hgranted]
    exact if_pos ⟨halive, hidle⟩
  have hjoined : Polled number [] [] w ((w.retime (·.grant k n)).note (.join patience)) :=
    ⟨rfl, [_], rfl, Journal.tells_join patience⟩
  have hlimit : n ≤ roundLimit w n := by
    unfold roundLimit
    omega
  obtain ⟨hpolled, hended, hrunning⟩ := @body_plain
    ((w.retime (·.grant k n)).note (.join patience)) number p replies nested k
    { job with budget := n } (roundLimit w n) hattends hscript hgranted hlive hlimit
  rw [hafter]
  have hran := hjoined.trans hpolled
  refine ⟨⟨hran.apart, hran.journal⟩, ?_, hrunning⟩
  change ((Timed.body _ _ _ _ _).table.modify k _).jobs[k]? = _
  rw [Timetable.jobs_modify, hended]
  rfl

/-! ### Polling after an activation -/

/-- A handler that an activation puts to work: no refresh and no job is running, and no refresh job
is left to be cancelled. -/
structure Ready (w : Watch) : Prop where
  free : w.inner.isRunning = false
  /-- The sink takes every update. -/
  steady : w.inner.sink = .steady
  running : w.running = none
  job : ∀ number, w.inner.refreshJob = some number → w.table.isCancelled number = true

/-- A lifetime begun is one that the next refresh runs a cycle of. -/
theorem Ready.attends_begun {before : Watch} (h : before.Ready) (p : ReferencePoint) :
    (before.begun p).inner.Attends before.inner.lifetimes.length p := by
  refine ⟨?_, ⟨.idle, ?_⟩, ?_, h.free, h.steady⟩
  · simp [begun, Timed.update, Timed.note, Handler.beginLifetime]
  · simp [begun, Timed.update, Timed.note, Handler.beginLifetime]
  · simp [begun, Timed.update, Timed.note, Handler.beginLifetime, Handler.isActive]

/-- An activation of such a handler begins a lifetime and starts a job. -/
theorem Ready.activate {before : Watch} (h : before.Ready)
    (hinterval : 0 < before.inner.refreshInterval)
    (hparse : ReferencePoint.parse before.inner.settings.location = .ok p) :
    ∃ w news, before.activate true = (none, w) ∧
      w.inner.Attends before.inner.lifetimes.length p ∧
      w.inner.programAt p = before.inner.programAt p ∧
      w.inner.refreshJob = some before.table.jobs.length ∧
      w.table.jobs[before.table.jobs.length]? =
        some (.started 0.0 (Decimal.ofInt before.inner.refreshInterval)) ∧
      w.running = none ∧ w.inner.script = before.inner.script ∧
      w.journal = news ++ before.journal ∧ news.Opens before.inner.lifetimes.length := by
  have hattends := h.attends_begun p
  rw [activate_of_ok hparse, if_pos rfl]
  rcases startJob_cases (before.begun p) with
    ⟨⟨number, hjob, hlive⟩, -⟩ | ⟨-, ⟨hperiod, -⟩ | ⟨-, first, second, heq⟩⟩
  · have hcancelled := h.job number hjob
    exact absurd (hlive.symm.trans hcancelled) Bool.false_ne_true
  · exact absurd hperiod (Doubles.not_ofInt_le_zero hinterval)
  · rw [heq]
    refine ⟨_, [.logged second, .logged first, .announced (.status .online),
        .reached (.activated before.inner.lifetimes.length)], rfl, ?_, rfl, rfl, ?_, h.running, rfl,
      rfl, rfl, rfl, rfl, rfl, by simp⟩
    · exact ⟨hattends.cycle, hattends.lifetime, hattends.active, hattends.free, hattends.steady⟩
    · exact List.getElem?_concat_length

/-- **An activation and its job.**  After an activation a run of the job is one cycle for each wait
that it is granted, whatever the replies are then. -/
theorem Ready.runJob {before : Watch} (h : before.Ready)
    (hinterval : 0 < before.inner.refreshInterval)
    (hparse : ReferencePoint.parse before.inner.settings.location = .ok p) (nested : Nested)
    (replies : List Reply) (n : Nat) (patience : Option Float) :
    ∃ w, before.activate true = (none, w) ∧
      w.inner.refreshJob = some before.table.jobs.length ∧
      w.table.isCancelled before.table.jobs.length = false ∧
      w.inner.script = before.inner.script ∧
      let after := Watch.runJob nested before.table.jobs.length n patience
        (w.update ({ · with script := replies.map .plain }))
      (∃ news, after.journal = news ++ before.journal ∧
        Journal.Recounts before.inner.lifetimes.length
          ((before.inner.programAt p).repeated n replies)
          (0.0 :: List.replicate n (Decimal.ofInt before.inner.refreshInterval)) news) ∧
      after.inner.Attends before.inner.lifetimes.length p ∧
      after.inner.refreshJob = some before.table.jobs.length ∧
      ∃ ended, after.table.jobs[before.table.jobs.length]? = some ended ∧ ended.runs = n ∧
        ended.cancelled = true := by
  obtain ⟨w, opening, hactivated, hattends, hprogram, hjob, hstarted, hrunning, hscript, hjournal,
    hopens⟩ := h.activate hinterval hparse
  let ready : Watch := w.update ({ · with script := replies.map .plain })
  have hready : ready.inner.Attends before.inner.lifetimes.length p :=
    ⟨hattends.cycle, hattends.lifetime, hattends.active, hattends.free, hattends.steady⟩
  have hidle : ready.running ≠ some before.table.jobs.length := by
    change w.running ≠ _
    rw [hrunning]
    simp
  obtain ⟨hpolled, hended, -⟩ :=
    runJob_plain nested hready rfl hstarted rfl rfl hidle n patience
  have hcycles : ready.inner.programAt p = before.inner.programAt p := hprogram
  obtain ⟨news, hnews, htold⟩ := hpolled.journal
  rw [hcycles] at htold
  -- The job waits no time for its first run.
  simp only [Job.started, ite_self] at htold
  have hwhole : (Watch.runJob nested before.table.jobs.length n patience ready).journal =
      (news ++ opening) ++ before.journal := by
    rw [hnews, List.append_assoc, ← hjournal]
    rfl
  refine ⟨w, hactivated, hjob, Timetable.isCancelled_of_jobs hstarted rfl, hscript,
    ⟨_, hwhole, hopens.recounts htold⟩, hpolled.attends hready, ?_, _, hended, Nat.zero_add n, rfl⟩
  exact (congrArg Handler.refreshJob hpolled.apart).trans hjob

/-- What an activation and a run of the job leave: the cycles one after another, each with one
status, and the handler as active as before. -/
structure Surveyed (lifetime job : Nat) (cycles : List (Exchange Outcome)) (before after : Watch) :
    Prop where
  /-- The cycles of the new lifetime follow one after another, and each one ends. -/
  milestones : after.journal.milestones = before.journal.milestones ++ .activated lifetime ::
    cycles.flatMap fun cycle => [.began lifetime, .concluded lifetime cycle.result]
  /-- Each outcome is published as a whole. -/
  announcements : after.journal.announcements = before.journal.announcements ++ .status .online ::
    cycles.flatMap fun cycle => cycle.result.announcements
  /-- Each cycle publishes one status. -/
  statuses : after.journal.statuses = before.journal.statuses ++ .online ::
    cycles.map fun cycle => cycle.result.update
  /-- The requests are those of the cycles. -/
  requests : after.journal.requests = before.journal.requests ++ cycles.flatMap Exchange.requests
  /-- The job waits once before the cycles, and once after each of them. -/
  waits : after.journal.waits = before.journal.waits ++
    0.0 :: List.replicate cycles.length (Decimal.ofInt before.inner.refreshInterval)
  /-- The job has run as often as there are cycles, until it was cancelled. -/
  runs : ∃ ended, after.table.jobs[job]? = some ended ∧ ended.runs = cycles.length ∧
    ended.cancelled = true
  free : after.inner.isRunning = false
  active : after.inner.isActive = true

/-- A run of the job after an activation. -/
theorem Ready.surveyed {before : Watch} (h : before.Ready)
    (hinterval : 0 < before.inner.refreshInterval) {w : Watch}
    (hactivated : before.activate true = (none, w)) (nested : Nested) (replies : List Reply)
    (n : Nat) (patience : Option Float) :
    ∃ p, ReferencePoint.parse before.inner.settings.location = .ok p ∧
      w.inner.refreshJob = some before.table.jobs.length ∧
      Surveyed before.inner.lifetimes.length before.table.jobs.length
        ((before.inner.programAt p).repeated n replies) before
        (Watch.runJob nested before.table.jobs.length n patience
          (w.update ({ · with script := replies.map .plain }))) := by
  cases hparse : ReferencePoint.parse before.inner.settings.location with
  | error fault =>
    rw [activate_of_error hparse] at hactivated
    cases hactivated
  | ok p =>
    obtain ⟨_, hsame, hjob, -, -, ⟨news, hjournal, hrecounts⟩, hattends, -, ended, hended, hruns,
      hcancelled⟩ := h.runJob hinterval hparse nested replies n patience
    cases hsame.symm.trans hactivated
    have hcount := (before.inner.programAt p).length_repeated n replies
    refine ⟨p, rfl, hjob, ?_⟩
    constructor
    · rw [hjournal, Journal.milestones_append, hrecounts.milestones]
    · rw [hjournal, Journal.announcements_append, hrecounts.announcements]
    · rw [hjournal, Journal.statuses_append, hrecounts.statuses]
    · rw [hjournal, Journal.requests_append, hrecounts.requests]
    · rw [hjournal, Journal.waits_append, hrecounts.waits, hcount]
    · rw [hcount]
      exact ⟨ended, hended, hruns, hcancelled⟩
    · exact hattends.free
    · exact hattends.active

end Watch

/-- **Polling survives every failure.**  A handler that nothing has happened to is ready to be put
to work if its settings are in order and its sink takes every update, and an activation at a valid
place succeeds.  However often a handler that is ready was active before, after such an activation
its job runs exactly as many cycles as it is granted waits, whatever the replies of the network are:
each cycle ends with an outcome, publishes one status, and leaves the replies that come after it to
the next one.  With the status of the activation there is one status more than there are cycles. -/
theorem polling_survives_failures :
    (∀ (s : BridgeSettings) (platform : Platform) (bridge : Bridge) (settings : WeatherSettings)
        (registry : Registry), s.check = .ok s → s.bridge platform = .ok bridge →
      let before : Watch := Timed.start (.create bridge settings registry)
      before.Ready ∧ 0 < before.inner.refreshInterval ∧ before.journal.statuses = [] ∧
        ((∃ p, ReferencePoint.parse settings.location = .ok p) →
          ∃ w, before.activate true = (none, w))) ∧
    ∀ before w : Watch, before.Ready → 0 < before.inner.refreshInterval →
      before.activate true = (none, w) →
      ∃ p lifetime job, ReferencePoint.parse before.inner.settings.location = .ok p ∧
        w.inner.refreshJob = some job ∧
        ∀ (nested : Nested) (replies : List Reply) (n : Nat) (patience : Option Float),
          let cycles := (before.inner.programAt p).repeated n replies
          let after := Watch.runJob nested job n patience
            (w.update ({ · with script := replies.map .plain }))
          cycles.length = n ∧ Watch.Surveyed lifetime job cycles before after ∧
            after.journal.statuses.length = before.journal.statuses.length + n + 1 := by
  constructor
  · intro s platform bridge settings registry hcheck hbridge before
    obtain ⟨credentials, -, rfl⟩ := BridgeSettings.bridge_eq_ok_iff.1 hbridge
    have hinterval : 0 < before.inner.refreshInterval :=
      (BridgeSettings.check_eq_ok_iff.1 hcheck).1.refreshInterval
    have hready : before.Ready := ⟨rfl, rfl, rfl, fun number hjob => by cases hjob⟩
    refine ⟨hready, hinterval, rfl, ?_⟩
    rintro ⟨p, hparse⟩
    obtain ⟨w, -, hactivated, -⟩ := hready.activate hinterval hparse
    exact ⟨w, hactivated⟩
  · intro before w hready hinterval hactivated
    obtain ⟨p, hparse, hjob, -⟩ :=
      hready.surveyed hinterval hactivated (Watch.performWithin 0) [] 0 none
    refine ⟨p, before.inner.lifetimes.length, before.table.jobs.length, hparse, hjob, ?_⟩
    intro nested replies n patience cycles after
    obtain ⟨q, hplace, -, hsurveyed⟩ :=
      hready.surveyed hinterval hactivated nested replies n patience
    cases hparse.symm.trans hplace
    have hcount : cycles.length = n := Dialogue.length_repeated _ n replies
    refine ⟨hcount, hsurveyed, ?_⟩
    rw [hsurveyed.statuses, List.length_append, List.length_cons, List.length_map, hcount]
    rfl

/-- Replies that each end a cycle: a failure that does not come from the request, an error of the
server, and no connection. -/
def failingReplies : List Reply :=
  [.failure ⟨.runtime, some "no route"⟩, .response ⟨500, "", "Server Error"⟩,
    .failure ⟨.connection, none⟩]

/-- A handler that is put to work meets these replies, and polls three times all the same. -/
theorem polling_survives_three_failures :
    let before : Watch := Timed.start
      (.create ⟨.connect { baseUrl := "/v1" }, 60⟩ { location := "51.2,7.1" } .builtIn)
    ∃ w job, before.activate true = (none, w) ∧ w.inner.refreshJob = some job ∧
      let after := Watch.runJob (Watch.performWithin 0) job 3 none
        (w.update ({ · with script := failingReplies.map .plain }))
      after.journal.statuses = [.online, .offline none, .offline (some .communicationError),
        .offline (some .communicationError)] ∧
      ∃ ended, after.table.jobs[job]? = some ended ∧ ended.runs = 3 := by
  intro before
  have hcheck : BridgeSettings.check { baseUrl := "/v1" } = .ok { baseUrl := "/v1" } :=
    (BridgeSettings.usable_usual (by decide)).check
  obtain ⟨hready, hinterval, hnone, hactivates⟩ :=
    polling_survives_failures.1 _ {} ⟨.connect { baseUrl := "/v1" }, 60⟩
      { location := "51.2,7.1" } .builtIn hcheck rfl
  obtain ⟨w, hactivated⟩ := hactivates ⟨_, rfl⟩
  obtain ⟨p, lifetime, job, hparse, hjob, hpolls⟩ :=
    polling_survives_failures.2 before w hready hinterval hactivated
  obtain ⟨hcount, hsurveyed, -⟩ := hpolls (Watch.performWithin 0) failingReplies 3 none
  obtain ⟨ended, hended, hruns, -⟩ := hsurveyed.runs
  refine ⟨w, job, hactivated, hjob, ?_, ended, hended, hruns.trans hcount⟩
  -- Each of the first two cycles uses up one reply.
  have hfirst : ((before.inner.programAt p).exchange failingReplies).rest =
      failingReplies.drop 1 := rfl
  have hsecond : ((before.inner.programAt p).exchange (failingReplies.drop 1)).rest =
      failingReplies.drop 2 := rfl
  rw [hsurveyed.statuses, hnone]
  simp only [Dialogue.repeated, hfirst, hsecond]
  rfl

end StationWatch
