import StationWatch.Command.Run
import StationWatch.Proofs.Jobs
import StationWatch.Proofs.Polling

/-!
# A run that is left within a cycle

A run waits for its job, and may stop waiting while a request of a cycle is pending.  Then it is
shut down: the handler is disposed of, which cancels its job, and the connections are released.  The
cycle goes on to its end, but the sink is told nothing any more, no other cycle begins, and nothing
is released a second time.

At every moment the run is either still waiting or has left.  That is what replies, effects, the end
of a cycle and the waits of the job keep.

## Main definitions

* `Event.mayFollow` — what may come after the release of the connections.
* `Command.Unreleased`, `Command.Awaited`, `Command.Departed` — a run before and after it has left.
* `Command.OnCourse` — a run at any moment until its job has ended.

## Main results

* `Command.Unreleased.shutDown` — what a shutdown leaves.
* `Command.OnCourse.reply` — a request with the steps while it is pending.
* `Command.onCourse_awaitJob` — the end of the job.

## References

`SPEC_FULL.md`, sections 5 and 10.6, on cancellation and on the end of a run.
-/

namespace StationWatch

/-- Whether an entry may come after the release of the connections: no update reaches the sink, no
cycle begins, and nothing is released again. -/
def Event.mayFollow : Event → Bool
  | .announced _ => false
  | .reached (.began _) => false
  | .closed => false
  | _ => true

theorem Event.mayFollow_of_isTiming {event : Event} (h : event.isTiming = true) :
    event.mayFollow = true ∧ event.request? = none := by
  cases event <;> first | exact ⟨rfl, rfl⟩ | cases h

theorem Journal.closed_not_mem {news : Journal} (h : ∀ event ∈ news, event.mayFollow = true) :
    .closed ∉ news := by
  intro hmem
  cases h _ hmem

/-- Without requests among them, more entries leave the requests as they are. -/
theorem Journal.requests_of_none {news : Journal} (h : ∀ event ∈ news, event.request? = none)
    (journal : Journal) : Journal.requests (news ++ journal) = journal.requests := by
  have hnone : news.requests = [] :=
    List.filterMap_eq_nil_iff.2 fun event hevent => h event (List.mem_reverse.1 hevent)
  rw [Journal.requests_append, hnone, List.append_nil]

theorem Journal.requests_logged (lines : List LogEntry) (journal : Journal) :
    Journal.requests (lines.map .logged ++ journal) = journal.requests :=
  requests_of_none (List.forall_mem_map.2 fun _ _ => rfl) journal

@[simp] theorem Journal.requests_request (r : Request) (journal : Journal) :
    Journal.requests (.request r :: journal) = journal.requests ++ [r] := by
  simp [Journal.requests, Event.request?]

namespace Command

open Watch

/-! ### Steps while a request is pending -/

theorem script_withJob (interrupted : Bool) (replies : List Reply) :
    (Leave.withJob interrupted).script replies = replies.map .plain := by
  refine List.ext_getElem? fun i => ?_
  rw [Leave.script, List.getElem?_mapIdx, List.getElem?_map]
  rfl

/-- The steps that the next reply carries. -/
theorem during_next (leave : Leave) (replies : List Reply) (number : Nat) :
    ((leave.script replies).drop number).head?.elim [] ScriptedReply.during =
      if number < replies.length then leave.during number else [] := by
  rw [List.head?_drop, Leave.script, List.getElem?_mapIdx]
  split
  · rename_i hnumber
    rw [List.getElem?_eq_getElem hnumber]
    rfl
  · rename_i hnumber
    rw [List.getElem?_eq_none (Nat.not_lt.1 hnumber)]
    rfl

/-- Steps while a request is pending belong to a run that is left then. -/
theorem during_eq_nil_or (leave : Leave) (number : Nat) :
    leave.during number = [] ∨ ∃ interrupted, leave = .within number interrupted := by
  cases leave with
  | withJob interrupted => exact .inl rfl
  | within other interrupted =>
    by_cases heq : number = other
    · exact .inr ⟨interrupted, by rw [heq]⟩
    · exact .inl (if_neg heq)

/-- After the request at which a run is left no other one carries steps. -/
theorem during_of_later {number other : Nat} (hlater : number < other) (interrupted : Bool) :
    (Leave.within number interrupted).during other = [] :=
  if_neg (Nat.ne_of_gt hlater)

/-! ### Before the release -/

/-- A run whose connections are not released: it was activated once, and at most one job is at
work. -/
structure Unreleased (w : Watch) : Prop where
  /-- There is only one lifetime. -/
  lifetimes : w.inner.lifetimes.length = 1
  /-- Only the refresh job can be live. -/
  sole : w.SoleJob
  closed : .closed ∉ w.journal

/-- What happens beside a release, requests apart. -/
structure Passes (w w' : Watch) : Prop where
  lifetimes : w'.inner.lifetimes.length = w.inner.lifetimes.length
  isOpen : ∀ number, w'.inner.isOpen number = w.inner.isOpen number
  cycle : w'.inner.cycle = w.inner.cycle
  refreshJob : w'.inner.refreshJob = w.inner.refreshJob
  script : w'.inner.script = w.inner.script
  table : w.table.Tends w'.table
  journal : ∃ news, w'.journal = news ++ w.journal ∧
    ∀ event ∈ news, event.mayFollow = true ∧ event.request? = none

variable {w w' : Watch}

theorem passes_note (w : Watch) {event : Event} (h : event.mayFollow = true)
    (hnone : event.request? = none) : Passes w (w.note event) :=
  ⟨rfl, fun _ => rfl, rfl, rfl, rfl, .refl _, [event], rfl,
    List.forall_mem_singleton.2 ⟨h, hnone⟩⟩

theorem passes_running (w : Watch) (isRunning : Bool) :
    Passes w (w.update ({ · with isRunning })) :=
  ⟨rfl, fun _ => rfl, rfl, rfl, rfl, .refl _, [], rfl, by simp⟩

theorem passes_of_proceeds (h : w.Proceeds w') : Passes w w' := by
  obtain ⟨news, hjournal, htiming⟩ := h.journal
  refine ⟨?_, fun number => ?_, ?_, ?_, ?_, h.table, news, hjournal,
    fun event hevent => Event.mayFollow_of_isTiming (htiming event hevent)⟩
  all_goals rw [h.inner]

theorem passes_act (number : Nat) (effect : Effect) (w : Watch) :
    Passes w (w.act number effect) := by
  cases effect with
  | pause seconds => exact passes_note w rfl rfl
  | log entry => exact passes_note w rfl rfl
  | enter phase =>
    exact ⟨Handler.length_enter _ _ _, fun _ => Handler.isOpen_enter _ _ _ _, rfl, rfl, rfl,
      .refl _, [], rfl, by simp⟩

theorem Passes.trans {w'' : Watch} (h : Passes w w') (h' : Passes w' w'') : Passes w w'' := by
  obtain ⟨news, hjournal, hnews⟩ := h.journal
  obtain ⟨news', hjournal', hnews'⟩ := h'.journal
  refine ⟨h'.lifetimes.trans h.lifetimes, fun number => (h'.isOpen number).trans (h.isOpen number),
    h'.cycle.trans h.cycle, h'.refreshJob.trans h.refreshJob, h'.script.trans h.script,
    h.table.trans h'.table, news' ++ news, ?_, List.forall_mem_append.2 ⟨hnews', hnews⟩⟩
  rw [hjournal', hjournal, List.append_assoc]

theorem Unreleased.passes (h : Unreleased w) (hpasses : Passes w w') : Unreleased w' := by
  obtain ⟨news, hjournal, hnews⟩ := hpasses.journal
  refine ⟨hpasses.lifetimes.trans h.lifetimes, h.sole.of_tends hpasses.table hpasses.refreshJob, ?_⟩
  rw [hjournal, List.mem_append, not_or]
  exact ⟨Journal.closed_not_mem fun event hevent => (hnews event hevent).1, h.closed⟩

/-- **What a shutdown leaves.**  The connections are released at the end, the lifetime is over, and
no job is live. -/
theorem Unreleased.shutDown (h : Unreleased w) (interrupted : Bool) :
    (∃ before : Journal, (Watch.shutDown interrupted w).journal = .closed :: before ∧
      .closed ∉ before ∧ before.requests = w.journal.requests) ∧
      (∀ number, (Watch.shutDown interrupted w).inner.isOpen number = false) ∧
      (Watch.shutDown interrupted w).inner.cycle = none ∧
      (∀ number, (Watch.shutDown interrupted w).table.isCancelled number = true) ∧
      (Watch.shutDown interrupted w).inner.script = w.inner.script := by
  -- An interruption is told in the log beforehand.
  obtain ⟨v, hv, hpasses⟩ : ∃ v, Watch.shutDown interrupted w = (dispose v).note .closed ∧
      Passes w v := by
    cases interrupted with
    | false => exact ⟨w, rfl, passes_of_proceeds (Timed.proceeds_running w w.running)⟩
    | true => exact ⟨w.log .info .command "Interrupted, shutting down", rfl,
        passes_note w rfl rfl⟩
  have hunreleased := h.passes hpasses
  obtain ⟨news, hnews, hminor⟩ := hpasses.journal
  obtain ⟨lines, entry, hdisposed⟩ := v.logs_dispose
  rw [hv]
  refine ⟨⟨(dispose v).journal, rfl, ?_, ?_⟩, fun number => ?_, ?_, fun number => ?_, ?_⟩
  · rw [hdisposed]
    simpa using hunreleased.closed
  · -- A disposal is told in the log and by a milestone.
    have hending : ∀ event ∈ [Event.reached .disposed, .logged entry], event.request? = none := by
      simp [Event.request?]
    rw [hdisposed, Journal.requests_logged]
    refine (Journal.requests_of_none hending v.journal).trans ?_
    rw [hnews, Journal.requests_of_none fun event hevent => (hminor event hevent).2]
  · change (dispose v).inner.isOpen number = false
    obtain ⟨lifetime, hlifetime⟩ := List.length_eq_one_iff.1 hunreleased.lifetimes
    rw [inner_dispose]
    simp only [Handler.isOpen, Handler.endLifetime, hlifetime]
    cases number <;> rfl
  · change (dispose v).inner.cycle = none
    rw [inner_dispose]
  · exact hunreleased.sole.isCancelled_dispose number
  · change (dispose v).inner.script = _
    rw [inner_dispose]
    exact hpasses.script

/-- A run that still waits for its job: no reply so far has carried steps. -/
structure Awaited (leave : Leave) (replies : List Reply) (w : Watch) : Prop where
  unreleased : Unreleased w
  /-- The replies to come are those that no request has used up. -/
  script : w.inner.script = (leave.script replies).drop w.journal.requests.length
  early : ∀ number < w.journal.requests.length, number < replies.length → leave.during number = []

/-- A run that was left within a request, and whose cycle goes on. -/
structure Departed (leave : Leave) (w : Watch) : Prop where
  /-- What follows the release, which took place while a request was pending. -/
  journal : ∃ (later before : Journal) (number : Nat) (interrupted : Bool),
    w.journal = later ++ .closed :: before ∧ .closed ∉ before ∧
    (∀ event ∈ later, event.mayFollow = true) ∧
    leave = .within number interrupted ∧ before.requests.length = number + 1
  /-- No lifetime is open, so nothing reaches the sink. -/
  ended : ∀ number, w.inner.isOpen number = false
  /-- There is no cycle that a refresh would begin. -/
  cycle : w.inner.cycle = none
  jobs : ∀ number, w.table.isCancelled number = true
  /-- No steps are left. -/
  script : ∀ scripted ∈ w.inner.script, scripted.during = []

/-- A run that waits for its job or was left. -/
def OnCourse (leave : Leave) (replies : List Reply) (w : Watch) : Prop :=
  Awaited leave replies w ∨ Departed leave w

variable {leave : Leave} {replies : List Reply}

/-- A run has left once its connections are released. -/
theorem hasLeft_iff {w : Watch} : hasLeft w = true ↔ .closed ∈ w.journal := by
  rw [hasLeft, List.any_eq_true]
  constructor
  · rintro ⟨event, hevent, heq⟩
    cases event <;> first | exact hevent | cases heq
  · exact fun h => ⟨_, h, rfl⟩

theorem Departed.hasLeft (h : Departed leave w) : hasLeft w = true := by
  obtain ⟨later, before, -, -, hjournal, -⟩ := h.journal
  rw [hasLeft_iff, hjournal]
  exact List.mem_append_right _ List.mem_cons_self

theorem Unreleased.hasLeft (h : Unreleased w) : hasLeft w = false :=
  Bool.eq_false_iff.2 (hasLeft_iff.not.2 h.closed)

/-- Without requests the replies to come stay. -/
theorem Awaited.extend (h : Awaited leave replies w) (hunreleased : Unreleased w')
    (hscript : w'.inner.script = w.inner.script) {news : Journal}
    (hjournal : w'.journal = news ++ w.journal) (hnone : ∀ event ∈ news, event.request? = none) :
    Awaited leave replies w' := by
  have hrequests : w'.journal.requests = w.journal.requests := by
    rw [hjournal, Journal.requests_of_none hnone]
  refine ⟨hunreleased, ?_, ?_⟩
  · rw [hrequests, hscript, h.script]
  · rw [hrequests]
    exact h.early

theorem Awaited.passes (h : Awaited leave replies w) (hpasses : Passes w w') :
    Awaited leave replies w' := by
  obtain ⟨news, hjournal, hnews⟩ := hpasses.journal
  exact h.extend (h.unreleased.passes hpasses) hpasses.script hjournal
    fun event hevent => (hnews event hevent).2

theorem Departed.passes (h : Departed leave w) (hpasses : Passes w w') : Departed leave w' := by
  obtain ⟨news, hnews, hminor⟩ := hpasses.journal
  obtain ⟨later, before, number, interrupted, hjournal, hclosed, hlater, hleave⟩ := h.journal
  refine ⟨⟨news ++ later, before, number, interrupted, ?_, hclosed, ?_, hleave⟩,
    fun number => (hpasses.isOpen number).trans (h.ended number), hpasses.cycle.trans h.cycle,
    fun number => hpasses.table.cancelled number (h.jobs number), ?_⟩
  · rw [hnews, hjournal, List.append_assoc]
  · exact List.forall_mem_append.2 ⟨fun event hevent => (hminor event hevent).1, hlater⟩
  · rw [hpasses.script]
    exact h.script

theorem OnCourse.passes (h : OnCourse leave replies w) (hpasses : Passes w w') :
    OnCourse leave replies w' :=
  h.imp (·.passes hpasses) (·.passes hpasses)

/-! ### A request -/

theorem passes_cancelJob (w : Watch) : Passes w (performWithin 1 .cancelJob w).2 := by
  change Passes w (Watch.yield (performWithin 0) .cancelJob w).2
  unfold Watch.yield
  dsimp only
  split
  · exact passes_of_proceeds (Timed.proceeds_running w w.running)
  · exact ⟨rfl, fun _ => rfl, rfl, rfl, rfl, Timetable.tends_cancel _ _, [], rfl, by simp⟩

/-- The steps at the request with which a run is left. -/
theorem Unreleased.departs {number : Nat} (h : Unreleased w) (interrupted : Bool)
    (hrequests : w.journal.requests.length = number + 1)
    (hscript : ∀ scripted ∈ w.inner.script, scripted.during = []) :
    Departed (.within number interrupted)
      (runNested (performWithin 1) ((Leave.within number interrupted).during number) w) := by
  -- Without an interruption the job was cancelled before.
  obtain ⟨v, hpasses, hv⟩ : ∃ v, Passes w v ∧ ∃ told,
      runNested (performWithin 1) ((Leave.within number interrupted).during number) w =
        (Watch.shutDown interrupted v).note (.stepped told) := by
    rw [Leave.during, if_pos rfl]
    cases interrupted with
    | true => exact ⟨w, passes_of_proceeds (Timed.proceeds_running w w.running), _, rfl⟩
    | false =>
      have hcancelled := passes_cancelJob w
      let v := (performWithin 1 .cancelJob w).2.note (.stepped (performWithin 1 .cancelJob w).1)
      exact ⟨v, hcancelled.trans (passes_note _ rfl rfl), _, rfl⟩
  obtain ⟨told, hv⟩ := hv
  obtain ⟨news, hnews, hminor⟩ := hpasses.journal
  obtain ⟨⟨before, hjournal, hclosed, hsent⟩, hended, hcycle, hjobs, hleft⟩ :=
    (h.passes hpasses).shutDown interrupted
  rw [hv]
  refine ⟨⟨[.stepped told], before, number, interrupted, ?_, hclosed, ?_, rfl, ?_⟩, hended, hcycle,
    hjobs, ?_⟩
  · change _ :: (Watch.shutDown interrupted v).journal = _
    rw [hjournal]
    rfl
  · exact List.forall_mem_singleton.2 rfl
  · rw [hsent, hnews, Journal.requests_of_none fun event hevent => (hminor event hevent).2,
      hrequests]
  · change ∀ scripted ∈ (Watch.shutDown interrupted v).inner.script, _
    rw [hleft, hpasses.script]
    exact hscript

/-- A state in which a request is pending and other replies are left. -/
def asking (request : Request) (script : List ScriptedReply) (w : Watch) : Watch :=
  (w.note (.request request)).update ({ · with script })

/-- While a request is pending, the steps of the next reply take place. -/
theorem reply_eq (nested : Nested) (request : Request) (w : Watch) :
    (reply nested request w).2 =
      runNested nested (w.inner.script.head?.elim [] ScriptedReply.during)
        (asking request w.inner.script.tail w) := by
  cases hscript : w.inner.script with
  | nil =>
    have hasking : asking request [] w = w.note (.request request) := by
      rw [← hscript]
      rfl
    simp [reply, Timed.note, hscript, runNested, hasking]
  | cons next rest =>
    simp [reply, Timed.note, hscript, asking]

theorem Departed.reply (h : Departed leave w) (request : Request) :
    Departed leave (reply (performWithin 1) request w).2 := by
  obtain ⟨later, before, number, interrupted, hjournal, hclosed, hlater, hleave⟩ := h.journal
  have hnone : w.inner.script.head?.elim [] ScriptedReply.during = [] := by
    cases hscript : w.inner.script with
    | nil => rfl
    | cons next rest => exact h.script next (hscript ▸ List.mem_cons_self)
  rw [reply_eq, hnone]
  refine ⟨⟨.request request :: later, before, number, interrupted, ?_, hclosed,
    List.forall_mem_cons.2 ⟨rfl, hlater⟩, hleave⟩, h.ended, h.cycle, h.jobs,
    fun scripted hscripted => h.script scripted (List.mem_of_mem_tail hscripted)⟩
  change _ :: w.journal = _
  rw [hjournal]
  rfl

theorem Awaited.reply (h : Awaited leave replies w) (request : Request) :
    OnCourse leave replies (reply (performWithin 1) request w).2 := by
  let asked := asking request w.inner.script.tail w
  have hasked : Unreleased asked :=
    ⟨h.unreleased.lifetimes, h.unreleased.sole, by
      simpa [asked, asking, Timed.note, Timed.update] using h.unreleased.closed⟩
  have hrequests : asked.journal.requests.length = w.journal.requests.length + 1 := by
    change (Journal.requests (.request request :: w.journal)).length = _
    rw [Journal.requests_request, List.length_append, List.length_singleton]
  have hscript : asked.inner.script =
      (leave.script replies).drop (w.journal.requests.length + 1) := by
    change w.inner.script.tail = _
    rw [h.script, List.tail_drop]
  rw [reply_eq, h.script, during_next, ← h.script]
  by_cases hnone : w.journal.requests.length < replies.length →
      leave.during w.journal.requests.length = []
  · -- No steps yet.
    have hduring : (if w.journal.requests.length < replies.length then
        leave.during w.journal.requests.length else []) = [] := ite_eq_right_iff.2 hnone
    rw [hduring]
    rw [← hrequests] at hscript
    refine .inl ⟨hasked, hscript, fun number hnumber hreplies => ?_⟩
    change number < asked.journal.requests.length at hnumber
    rw [hrequests, Nat.lt_succ_iff_lt_or_eq] at hnumber
    rcases hnumber with hearlier | rfl
    · exact h.early number hearlier hreplies
    · exact hnone hreplies
  · obtain ⟨hreplies, hsome⟩ := Classical.not_imp.1 hnone
    obtain ⟨interrupted, rfl⟩ := (during_eq_nil_or leave _).resolve_left hsome
    rw [if_pos hreplies]
    refine .inr (hasked.departs interrupted hrequests fun scripted hscripted => ?_)
    rw [hscript] at hscripted
    obtain ⟨i, hi, rfl⟩ := List.mem_drop_iff_getElem.1 hscripted
    simp only [Leave.script, List.getElem_mapIdx, ScriptedReply.during]
    exact during_of_later (by omega) interrupted

theorem OnCourse.reply (h : OnCourse leave replies w) (request : Request) :
    OnCourse leave replies (reply (performWithin 1) request w).2 :=
  h.elim (·.reply request) fun h => .inr (h.reply request)

/-! ### A cycle -/

/-- The end of a cycle.  Once the run has left, its lifetime is over and nothing is told. -/
theorem OnCourse.conclude (h : OnCourse leave replies w) (number : Nat) (outcome : Outcome) :
    OnCourse leave replies (w.conclude number outcome).2 := by
  obtain ⟨fault, ending, told, hends, heq⟩ := w.exists_concludes number outcome
  rw [heq]
  rcases h with h | h
  · have hnews : ∀ event ∈ .reached ending :: told.reverse.map Event.announced,
        event ≠ .closed ∧ event.request? = none := by
      refine List.forall_mem_cons.2 ⟨⟨by simp, rfl⟩, fun event hevent => ?_⟩
      obtain ⟨a, -, rfl⟩ := List.mem_map.1 hevent
      exact ⟨by simp, rfl⟩
    refine .inl (h.extend ⟨?_, ?_, ?_⟩ rfl rfl fun event hevent => (hnews event hevent).2)
    · exact (Handler.length_enter _ _ _).trans h.unreleased.lifetimes
    · exact h.unreleased.sole.of_tends (.refl _) rfl
    · rintro (_ | ⟨_, hmem⟩)
      rcases List.mem_append.1 hmem with hmem | hmem
      · exact (hnews _ (List.mem_cons_of_mem _ hmem)).1 rfl
      · exact h.unreleased.closed hmem
  · have hended := h.ended number
    generalize w.inner.isOpen number = isOpen at hends hended
    subst hended
    cases hends
    exact .inr (h.passes ⟨Handler.length_enter _ _ _, fun _ => Handler.isOpen_enter _ _ _ _, rfl,
      rfl, rfl, .refl _, [_], rfl, List.forall_mem_singleton.2 ⟨rfl, rfl⟩⟩)

/-- A cycle that begins while the run waits for its job. -/
theorem Awaited.runCycle (h : Awaited leave replies w) (number : Nat) :
    OnCourse leave replies (runCycle (performWithin 1) number w).2 := by
  cases hlifetime : w.inner.lifetimes[number]? with
  | none =>
    rw [runCycle_of_none _ hlifetime]
    exact .inl h
  | some lifetime =>
    rw [runCycle_eq _ hlifetime]
    let begun := w.note (.reached (.began number))
    have hunreleased : Unreleased begun :=
      ⟨h.unreleased.lifetimes, h.unreleased.sole, by
        simpa [begun, Timed.note] using h.unreleased.closed⟩
    have hjournal : begun.journal = [.reached (.began number)] ++ w.journal := rfl
    have hbegun : Awaited leave replies begun :=
      h.extend hunreleased rfl hjournal (List.forall_mem_singleton.2 rfl)
    have hran := Dialogue.run_preserves (P := OnCourse leave replies)
      (Watch.reply (performWithin 1)) (act number) (fun request _ h => OnCourse.reply h request)
      (fun effect w h => OnCourse.passes h (passes_act number effect w))
      (w.programOf lifetime) _ (Or.inl hbegun)
    exact OnCourse.conclude hran number _

/-- A refresh.  A run that was left has no cycle any more that it could begin. -/
theorem OnCourse.refresh (h : OnCourse leave replies w) :
    OnCourse leave replies (refresh (performWithin 1) w).2 := by
  rcases refresh_cases (performWithin 1) w with
    heq | ⟨line, heq⟩ | ⟨number, hcycle, -, -, heq⟩
  · rwa [heq]
  · rw [heq]
    exact h.passes (passes_note w rfl rfl)
  · rcases h with h | h
    · rw [heq]
      exact ((h.passes (passes_running w true)).runCycle number).passes (passes_running _ false)
    · rw [h.cycle] at hcycle
      cases hcycle

end Command

end StationWatch
