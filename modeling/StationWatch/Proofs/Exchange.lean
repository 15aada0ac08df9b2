import StationWatch.Events

/-!
# What a dialogue exchanges with its network

A run in a session keeps a journal and a phase beside the replies.  The result of a dialogue, the
requests it sends and the replies it leaves depend on the replies alone, so they can be computed
without the rest: an exchange.  This file defines it, gives its equations, and says what a session
looks like after a run: the requests of the exchange have been added to its journal, and nothing was
announced.

## Main definitions

* `Exchange` — result, requests and the replies left over.
* `Dialogue.exchange` — a dialogue with a network that gives the replies of a list.

## Main results

* `exchange_bind` — two dialogues in a row.
* `Session.run_eq_exchange` — a run in a session is the exchange with its replies.
* `Session.announcements_run` — a run announces nothing.
* `Session.announcements_runCycle` — a cycle announces what its outcome says.
-/

namespace StationWatch

/-- What passed between a dialogue and its network. -/
structure Exchange (α : Type) where
  /-- The result of the dialogue. -/
  result : α
  /-- The requests that were sent, in order. -/
  requests : List Request
  /-- The replies that were left over. -/
  rest : List Reply

namespace Dialogue

variable {α β : Type}

/-- A dialogue with a network that gives the replies of a list, and fails when there are none. -/
def exchange : Dialogue α → List Reply → Exchange α
  | .done result, replies => ⟨result, [], replies⟩
  | .act _ rest, replies => exchange rest replies
  | .ask request next, replies =>
    let after := exchange (next (replies.headD exhausted)) replies.tail
    { after with requests := request :: after.requests }

@[simp] theorem exchange_pure (result : α) (replies : List Reply) :
    (pure result : Dialogue α).exchange replies = ⟨result, [], replies⟩ := rfl

@[simp] theorem exchange_log (level : Level) (source : Source) (message : RawText)
    (replies : List Reply) : (log level source message).exchange replies = ⟨(), [], replies⟩ := rfl

@[simp] theorem exchange_enter (phase : Phase) (replies : List Reply) :
    (enter phase).exchange replies = ⟨(), [], replies⟩ := rfl

@[simp] theorem exchange_pause (seconds : Float) (replies : List Reply) :
    (pause seconds).exchange replies = ⟨(), [], replies⟩ := rfl

@[simp] theorem exchange_request (r : Request) (replies : List Reply) :
    (request r).exchange replies = ⟨replies.headD exhausted, [r], replies.tail⟩ := rfl

/-- Two dialogues in a row: the second one gets the replies that the first one left. -/
@[simp] theorem exchange_bind (d : Dialogue α) (f : α → Dialogue β) (replies : List Reply) :
    (d >>= f).exchange replies =
      let first := d.exchange replies
      let second := (f first.result).exchange first.rest
      ⟨second.result, first.requests ++ second.requests, second.rest⟩ := by
  change (bind d f).exchange replies = _
  induction d generalizing replies with
  | done result => rfl
  | act effect rest ih => exact ih replies
  | ask r next ih =>
    simp only [bind, exchange, ih (replies.headD exhausted) replies.tail]
    rfl

@[simp] theorem exchange_map (f : α → β) (d : Dialogue α) (replies : List Reply) :
    (f <$> d).exchange replies =
      { result := f (d.exchange replies).result
        requests := (d.exchange replies).requests
        rest := (d.exchange replies).rest } := by
  rw [← bind_pure_comp, exchange_bind]
  simp

end Dialogue

namespace Session

variable {α : Type}

@[simp] theorem journal_note (s : Session) (event : Event) :
    (s.note event).journal = event :: s.journal := rfl

@[simp] theorem replies_perform (effect : Effect) (s : Session) :
    (perform effect s).replies = s.replies := by
  cases effect <;> rfl

@[simp] theorem requests_perform (effect : Effect) (s : Session) :
    (perform effect s).journal.requests = s.journal.requests := by
  cases effect <;> simp [perform, note, Journal.requests, Event.request?]

@[simp] theorem announcements_perform (effect : Effect) (s : Session) :
    (perform effect s).journal.announcements = s.journal.announcements := by
  cases effect <;> simp [perform, note, Journal.announcements, Event.announcement?]

theorem reply_eq (r : Request) (s : Session) :
    reply r s =
      (s.replies.headD exhausted, { s.note (.request r) with replies := s.replies.tail }) := by
  obtain ⟨replies, journal, phase⟩ := s
  cases replies <;> rfl

@[simp] theorem announcements_reply (r : Request) (s : Session) :
    (reply r s).2.journal.announcements = s.journal.announcements := by
  simp [reply_eq, note, Journal.announcements, Event.announcement?]

/-- A run in a session is the exchange with its replies: it has the same result, leaves the same
replies, and its requests stand in the journal. -/
theorem run_eq_exchange (d : Dialogue α) (s : Session) :
    (s.run d).1 = (d.exchange s.replies).result ∧
      (s.run d).2.replies = (d.exchange s.replies).rest ∧
      (s.run d).2.journal.requests = s.journal.requests ++ (d.exchange s.replies).requests := by
  unfold run
  induction d generalizing s with
  | done result => simp [Dialogue.exchange]
  | act effect rest ih => simpa [Dialogue.exchange] using ih (perform effect s)
  | ask r next ih =>
    have h := ih (reply r s).1 (reply r s).2
    rw [Dialogue.run_ask, Dialogue.exchange]
    rw [reply_eq] at h ⊢
    refine ⟨h.1, h.2.1, h.2.2.trans ?_⟩
    simp [Journal.requests, note, Event.request?]

theorem run_fst (d : Dialogue α) (s : Session) : (s.run d).1 = (d.exchange s.replies).result :=
  (run_eq_exchange d s).1

/-- A run announces nothing. -/
@[simp] theorem announcements_run (d : Dialogue α) (s : Session) :
    (s.run d).2.journal.announcements = s.journal.announcements :=
  Dialogue.run_preserves reply perform
    (P := fun t => t.journal.announcements = s.journal.announcements)
    (fun r t h => (announcements_reply r t).trans h)
    (fun effect t h => (announcements_perform effect t).trans h) d s rfl

/-! ### Cycles -/

/-- Announcements one after another change nothing else. -/
theorem foldl_note_announced (announcements : List Announcement) (s : Session) :
    let after := announcements.foldl (fun s a => s.note (.announced a)) s
    after.journal.announcements = s.journal.announcements ++ announcements ∧
      after.journal.requests = s.journal.requests ∧ after.phase = s.phase := by
  induction announcements generalizing s with
  | nil => simp
  | cons a rest ih =>
    obtain ⟨hannounced, hrequests, hphase⟩ := ih (s.note (.announced a))
    refine ⟨hannounced.trans ?_, hrequests.trans ?_, hphase⟩
    · simp [note, Journal.announcements, Event.announcement?]
    · simp [note, Journal.requests, Event.request?]

section

variable (service : Service) (registry : Registry) (settings : WeatherSettings)
variable (p : ReferencePoint) (s : Session)

theorem runCycle_fst : (s.runCycle service registry settings p).1 =
    ((Cycle.program service registry settings p).exchange s.replies).result :=
  run_fst _ _

/-- A cycle publishes what its outcome says, and nothing else. -/
theorem announcements_runCycle :
    (s.runCycle service registry settings p).2.journal.announcements =
      s.journal.announcements ++ (s.runCycle service registry settings p).1.announcements := by
  simp only [runCycle, (foldl_note_announced _ _).1, announcements_run]

theorem requests_runCycle : (s.runCycle service registry settings p).2.journal.requests =
    s.journal.requests ++
      ((Cycle.program service registry settings p).exchange s.replies).requests := by
  simp only [runCycle, (foldl_note_announced _ _).2.1, (run_eq_exchange _ _).2.2]

theorem phase_runCycle : (s.runCycle service registry settings p).2.phase =
    (s.runCycle service registry settings p).1.phase := by
  simp only [runCycle, (foldl_note_announced _ _).2.2]

end

end Session

end StationWatch
