import StationWatch.Watch

/-!
# The moments in the life of a handler

A step may take place while a request of a cycle is pending, and that step may begin a cycle of its
own.  So at any moment there is a stack of cycles in flight, the innermost one first.  This file
says what can happen at one moment, as a relation that knows nothing of the nesting of calls, and
shows that every list of steps, with all steps within its requests and all runs of its jobs, is made
of such moments.  What everything keeps that can happen at one moment is then kept by every run, and
what holds at every moment holds wherever a step can look.

## Main definitions

* `Timetable.Tends` — how a timetable may change beside a life: jobs are only ever cancelled.
* `Timed.Proceeds` — what takes place beside the callbacks of jobs.
* `Watch.Aside` — a change that a life takes no notice of.
* `Flight` — a cycle in flight.
* `Life` — the moments in the life of a handler.
* `Kept` — what everything keeps that can happen at one moment.

## Main results

* `Timed.join_preserves` — what callbacks and waits keep, the runs of a job keep.
* `Kept.yield`, `Kept.performWithin` — a step with the steps within its requests.
* `Kept.steps` — a list of steps.
* `Life.kept`, `Life.steps` — every list of steps is a life.
-/

namespace StationWatch

/-! ### Beside a life -/

/-- Whether an entry tells of something else than announcements, requests and milestones. -/
def Event.isQuiet : Event → Bool
  | .announced _ => false
  | .request _ => false
  | .reached _ => false
  | _ => true

/-- Whether an entry tells of a job that waits, or of someone who waits for its end. -/
def Event.isTiming : Event → Bool
  | .wait _ => true
  | .join _ => true
  | _ => false

theorem Event.isQuiet_of_isTiming {event : Event} (h : event.isTiming = true) :
    event.isQuiet = true := by
  cases event <;> first | rfl | cases h

namespace Timetable

/-- No job is lost, and no cancelled one comes back. -/
structure Tends (t t' : Timetable) : Prop where
  /-- There are as many jobs as before. -/
  length : t'.jobs.length = t.jobs.length
  /-- A cancelled job stays cancelled. -/
  cancelled : ∀ number, t.isCancelled number = true → t'.isCancelled number = true

theorem Tends.refl (t : Timetable) : Tends t t := ⟨rfl, fun _ h => h⟩

theorem Tends.trans {t t' t'' : Timetable} (h : Tends t t') (h' : Tends t' t'') : Tends t t'' :=
  ⟨h'.length.trans h.length, fun number hn => h'.cancelled number (h.cancelled number hn)⟩

/-- A job that is live afterwards was live before. -/
theorem Tends.live {t t' : Timetable} (h : Tends t t') {number : Nat}
    (hlive : t'.isCancelled number = false) : t.isCancelled number = false := by
  rw [Bool.eq_false_iff]
  intro hcancelled
  rw [h.cancelled number hcancelled] at hlive
  cases hlive

theorem isCancelled_modify (t : Timetable) (number other : Nat) (f : Job → Job) :
    (t.modify number f).isCancelled other =
      if number = other then (t.jobs[number]?).elim true fun job => (f job).cancelled
      else t.isCancelled other := by
  unfold isCancelled modify
  rw [List.getElem?_modify]
  by_cases h : number = other
  · subst h
    cases t.jobs[number]? <;> simp
  · cases t.jobs[other]? <;> simp [h]

/-- A change to one job, unless it takes back that the job is cancelled. -/
theorem tends_modify {t : Timetable} {number : Nat} {f : Job → Job}
    (h : ∀ job, t.jobs[number]? = some job → job.cancelled = true → (f job).cancelled = true) :
    Tends t (t.modify number f) := by
  refine ⟨by simp [modify], fun other hother => ?_⟩
  rw [isCancelled_modify]
  split
  · rename_i heq
    subst heq
    unfold isCancelled at hother
    cases hjob : t.jobs[number]? with
    | none => rfl
    | some job => exact h job hjob (by simpa [hjob] using hother)
  · exact hother

theorem tends_afterWait (t : Timetable) (number : Nat) : Tends t (t.afterWait number).2 := by
  unfold afterWait
  split
  · exact Tends.refl t
  · rename_i job hjob
    refine tends_modify fun job' hjob' hcancelled => ?_
    rw [hjob, Option.some.injEq] at hjob'
    subst hjob'
    simp [Job.afterWait, hcancelled]

theorem tends_cancel (t : Timetable) (number : Nat) : Tends t (t.cancel number).1 :=
  tends_modify fun _ _ _ => rfl

@[simp] theorem tracked_afterWait (t : Timetable) (number : Nat) :
    (t.afterWait number).2.tracked = t.tracked := by
  unfold afterWait
  split <;> rfl

end Timetable

/-! ### Runs of jobs -/

namespace Timed

variable {σ : Type} {w w' : Timed σ}

/-- What takes place beside the callbacks of jobs: jobs start, wait, are counted and end, and a wait
may cancel one. -/
structure Proceeds (w w' : Timed σ) : Prop where
  inner : w'.inner = w.inner
  table : w.table.Tends w'.table
  /-- The scheduler keeps the same jobs. -/
  tracked : w'.table.tracked = w.table.tracked
  /-- New entries tell of waits. -/
  journal : ∃ news, w'.journal = news ++ w.journal ∧ ∀ event ∈ news, event.isTiming = true

theorem proceeds_note (w : Timed σ) {event : Event} (h : event.isTiming = true) :
    Proceeds w (w.note event) :=
  ⟨rfl, .refl _, rfl, [event], rfl, by simpa using h⟩

theorem proceeds_running (w : Timed σ) (running : Option Nat) : Proceeds w { w with running } :=
  ⟨rfl, .refl _, rfl, [], rfl, by simp⟩

/-- A job is changed, but not brought back. -/
theorem proceeds_modify (w : Timed σ) (number : Nat) {f : Job → Job}
    (h : ∀ job, job.cancelled = true → (f job).cancelled = true) :
    Proceeds w (w.retime (·.modify number f)) :=
  ⟨rfl, Timetable.tends_modify fun job _ => h job, rfl, [], rfl, by simp⟩

theorem proceeds_wait (w : Timed σ) (number : Nat) (seconds : Float) :
    Proceeds w (w.wait number seconds).2 :=
  ⟨rfl, Timetable.tends_afterWait w.table number, Timetable.tracked_afterWait w.table number,
    [.wait seconds], rfl, by simp [Event.isTiming]⟩

variable {P : Timed σ → Prop} {callback : Timed σ → Timed σ}

theorem rounds_preserves (hcallback : ∀ w, P w → P (callback w))
    (hproceeds : ∀ w w', P w → w.Proceeds w' → P w') (number : Nat) (period : Float) (limit : Nat)
    (h : P w) : P (rounds callback number period limit w) := by
  -- A round is the callback, and then a count and a wait beside it.
  induction limit generalizing w with
  | zero => exact h
  | succ limit ih =>
    unfold rounds
    split
    · exact h
    · have hcounted : P ((callback w).retime (·.countRun number)) :=
        hproceeds _ _ (hcallback w h) (proceeds_modify _ number fun _ hjob => hjob)
      have hwaited := hproceeds _ _ hcounted (proceeds_wait _ number period)
      dsimp only
      split
      · exact hwaited
      · exact ih hwaited

theorem body_preserves (hcallback : ∀ w, P w → P (callback w))
    (hproceeds : ∀ w w', P w → w.Proceeds w' → P w') (number : Nat) (job : Job) (limit : Nat)
    (h : P w) : P (body callback number job limit w) := by
  have hentered := hproceeds _ _ h (proceeds_running w (some number))
  have hwaited := hproceeds _ _ hentered (proceeds_wait _ number job.initialDelay)
  unfold body
  dsimp only
  split
  · exact hproceeds _ _ hwaited (proceeds_running _ _)
  · have hran := rounds_preserves hcallback hproceeds number job.period limit hwaited
    exact hproceeds _ _ hran (proceeds_running _ _)

/-- What callbacks keep, and what happens beside them, is kept by a job from its start to its
end. -/
theorem join_preserves (hcallback : ∀ w, P w → P (callback w))
    (hproceeds : ∀ w w', P w → w.Proceeds w' → P w') (number limit : Nat)
    (patience : Option Float) (h : P w) : P (join callback number limit patience w) := by
  unfold join
  split
  · exact h
  · rename_i job _
    split
    · have hjoined : P (w.note (.join patience)) := hproceeds _ _ h (proceeds_note w rfl)
      have hended := body_preserves hcallback hproceeds number job limit hjoined
      exact hproceeds _ _ hended (proceeds_modify _ number fun _ hjob => hjob)
    · exact h

end Timed

namespace Watch

/-- A change that a life takes no notice of: lifetimes, cycle, guard and sink stay, the timetable
tends, and the journal tells of nothing that matters here. -/
structure Aside (w w' : Watch) : Prop where
  /-- The lifetimes stay. -/
  lifetimes : w'.inner.lifetimes = w.inner.lifetimes
  /-- The cycle of a refresh stays. -/
  cycle : w'.inner.cycle = w.inner.cycle
  /-- The refresh job stays. -/
  refreshJob : w'.inner.refreshJob = w.inner.refreshJob
  /-- Whether a refresh is running stays. -/
  isRunning : w'.inner.isRunning = w.inner.isRunning
  /-- The sink stays. -/
  sink : w'.inner.sink = w.inner.sink
  /-- The timetable tends. -/
  table : w.table.Tends w'.table
  /-- New entries are quiet. -/
  journal : ∃ news, w'.journal = news ++ w.journal ∧ ∀ event ∈ news, event.isQuiet = true

variable {w w' w'' : Watch}

theorem aside_note {event : Event} (h : event.isQuiet = true) : Aside w (w.note event) :=
  ⟨rfl, rfl, rfl, rfl, rfl, .refl _, [event], rfl, by simpa using h⟩

theorem aside_retime {f : Timetable → Timetable} (h : w.table.Tends (f w.table)) :
    Aside w (w.retime f) :=
  ⟨rfl, rfl, rfl, rfl, rfl, h, [], rfl, by simp⟩

/-- A change to what a life takes no notice of. -/
theorem aside_update {f : Handler → Handler}
    (hlifetimes : (f w.inner).lifetimes = w.inner.lifetimes)
    (hcycle : (f w.inner).cycle = w.inner.cycle)
    (hrefreshJob : (f w.inner).refreshJob = w.inner.refreshJob)
    (hisRunning : (f w.inner).isRunning = w.inner.isRunning)
    (hsink : (f w.inner).sink = w.inner.sink) : Aside w (w.update f) :=
  ⟨hlifetimes, hcycle, hrefreshJob, hisRunning, hsink, .refl _, [], rfl, by simp⟩

theorem aside_of_proceeds (h : w.Proceeds w') : Aside w w' := by
  obtain ⟨news, hjournal, htiming⟩ := h.journal
  refine ⟨?_, ?_, ?_, ?_, ?_, h.table, news, hjournal,
    fun event hevent => Event.isQuiet_of_isTiming (htiming event hevent)⟩
  all_goals rw [h.inner]

/-- The cycle of a lifetime. -/
def programOf (w : Watch) (lifetime : Lifetime) : Dialogue Outcome :=
  Cycle.program w.inner.service w.inner.registry w.inner.settings lifetime.reference

/-- What comes of a cycle with an outcome: that, or what the sink raised. -/
def yielded (outcome : Outcome) (fault : Option SinkFault) : Except SinkFault (Option Outcome) :=
  fault.elim (.ok (some outcome)) .error

/-- A cycle is its program, from its beginning to an outcome, and then the end of that. -/
theorem runCycle_eq (nested : Nested) {number : Nat} {lifetime : Lifetime}
    (hlifetime : w.inner.lifetimes[number]? = some lifetime) :
    runCycle nested number w =
      let ran := (w.programOf lifetime).run (reply nested) (act number)
        (w.note (.reached (.began number)))
      (yielded ran.1 (conclude number ran.1 ran.2).1, (conclude number ran.1 ran.2).2) := by
  simp only [runCycle, hlifetime, programOf]
  rcases conclude number _ _ with ⟨_ | fault, after⟩ <;> rfl

/-- Without a cycle to run there is nothing to raise. -/
theorem runCycle_of_none (nested : Nested) {number : Nat}
    (hlifetime : w.inner.lifetimes[number]? = none) : runCycle nested number w = (.ok none, w) := by
  simp only [runCycle, hlifetime]

/-- What a refresh comes to: nothing, a report that another one is running, or the current cycle
with the guard held. -/
theorem refresh_cases (nested : Nested) (w : Watch) :
    (refresh nested w).2 = w ∨
      (∃ line, (refresh nested w).2 = w.log .debug .handler line) ∨
      ∃ number, w.inner.cycle = some number ∧ w.inner.isActive = true ∧
        w.inner.isRunning = false ∧
        (refresh nested w).2 = (runCycle nested number
          (w.update ({ · with isRunning := true }))).2.update ({ · with isRunning := false }) := by
  unfold refresh
  cases hcycle : w.inner.cycle with
  | none => exact .inl rfl
  | some number =>
    cases hactive : w.inner.isActive with
    | false => exact .inl rfl
    | true =>
      cases hrunning : w.inner.isRunning with
      | true => exact .inr (.inl ⟨_, rfl⟩)
      | false => exact .inr (.inr ⟨number, rfl, rfl, rfl, rfl⟩)

/-- As the callback of a job a refresh does what it always does. -/
theorem snd_callback (nested : Nested) (w : Watch) :
    (callback nested w).2 = (refresh nested w).2 := by
  unfold callback
  split <;> rename_i hrefreshed <;> rw [hrefreshed]

end Watch

/-! ### Lives -/

/-- A cycle in flight. -/
structure Flight where
  /-- The number of the lifetime in which the cycle was made. -/
  number : Nat
  /-- Whether the cycle holds the guard of a refresh. -/
  guarded : Bool
  /-- What is still to be done. -/
  rest : Dialogue Outcome

/-- The guard given back, if it is held. -/
def Watch.release (w : Watch) (guarded : Bool) : Watch :=
  if guarded then w.update ({ · with isRunning := false }) else w

/-- Nothing but the guard is given back. -/
theorem Watch.release_eq (w : Watch) (guarded : Bool) :
    w.release guarded = w.update fun h => { h with isRunning := h.isRunning && !guarded } := by
  cases guarded with
  | false => simp [release, Timed.update]
  | true => simp [release, Timed.update]

/-- The moments in the life of a handler, each with the cycles in flight, the innermost one first.
Activations, disposals, refreshes and changes aside may come at any moment; a cycle goes on only
while no other one has begun after it. -/
inductive Life : Watch → List Flight → Prop
  /-- Before anything happened. -/
  | start (bridge : Bridge) (settings : WeatherSettings) (registry : Registry) (sink : Sink) :
      Life (Timed.start (.create bridge settings registry sink)) []
  /-- A change that a life takes no notice of. -/
  | aside {w w' : Watch} {flights : List Flight} (h : Life w flights) (haside : w.Aside w') :
      Life w' flights
  /-- An activation. -/
  | activate {w : Watch} {flights : List Flight} (h : Life w flights) (schedule : Bool) :
      Life (w.activate schedule).2 flights
  /-- A disposal. -/
  | dispose {w : Watch} {flights : List Flight} (h : Life w flights) : Life w.dispose flights
  /-- A refresh that begins the current cycle. -/
  | refresh {w : Watch} {flights : List Flight} {number : Nat} {lifetime : Lifetime}
      (h : Life w flights) (hcycle : w.inner.cycle = some number)
      (hactive : w.inner.isActive = true) (hfree : w.inner.isRunning = false)
      (hlifetime : w.inner.lifetimes[number]? = some lifetime) :
      Life ((w.update ({ · with isRunning := true })).note (.reached (.began number)))
        (⟨number, true, w.programOf lifetime⟩ :: flights)
  /-- A cycle that someone remembers begins. -/
  | rerun {w : Watch} {flights : List Flight} {number : Nat} {lifetime : Lifetime}
      (h : Life w flights) (hlifetime : w.inner.lifetimes[number]? = some lifetime) :
      Life (w.note (.reached (.began number)))
        (⟨number, false, w.programOf lifetime⟩ :: flights)
  /-- An effect of the innermost cycle. -/
  | act {w : Watch} {flights : List Flight} {number : Nat} {guarded : Bool} {effect : Effect}
      {rest : Dialogue Outcome} (h : Life w (⟨number, guarded, .act effect rest⟩ :: flights)) :
      Life (w.act number effect) (⟨number, guarded, rest⟩ :: flights)
  /-- A request of the innermost cycle, which any reply may answer. -/
  | ask {w : Watch} {flights : List Flight} {number : Nat} {guarded : Bool} {request : Request}
      {next : Reply → Dialogue Outcome}
      (h : Life w (⟨number, guarded, .ask request next⟩ :: flights)) (reply : Reply) :
      Life (w.note (.request request)) (⟨number, guarded, next reply⟩ :: flights)
  /-- The end of the innermost cycle, whether or not the sink takes what it publishes. -/
  | conclude {w : Watch} {flights : List Flight} {number : Nat} {guarded : Bool}
      {outcome : Outcome} (h : Life w (⟨number, guarded, .done outcome⟩ :: flights)) :
      Life ((w.conclude number outcome).2.release guarded) flights

/-! ### What every run keeps -/

/-- Steps within requests keep what holds at a moment. -/
def Keeps (P : Watch → List Flight → Prop) (nested : Nested) : Prop :=
  ∀ step w flights, P w flights → P (nested step w).2 flights

/-- What everything keeps that can happen at one moment. -/
structure Kept (P : Watch → List Flight → Prop) : Prop where
  /-- A change aside, which leaves the service and the interval between cycles as they are. -/
  aside : ∀ {w w' : Watch} {flights : List Flight}, P w flights → w.Aside w' →
    w'.inner.service = w.inner.service →
    w'.inner.refreshInterval = w.inner.refreshInterval → P w' flights
  /-- An activation. -/
  activate : ∀ {w : Watch} {flights : List Flight}, P w flights →
    ∀ schedule, P (w.activate schedule).2 flights
  /-- A disposal. -/
  dispose : ∀ {w : Watch} {flights : List Flight}, P w flights → P w.dispose flights
  /-- A refresh that begins the current cycle. -/
  refresh : ∀ {w : Watch} {flights : List Flight} {number : Nat} {lifetime : Lifetime},
    P w flights → w.inner.cycle = some number → w.inner.isActive = true →
    w.inner.isRunning = false → w.inner.lifetimes[number]? = some lifetime →
    P ((w.update ({ · with isRunning := true })).note (.reached (.began number)))
      (⟨number, true, w.programOf lifetime⟩ :: flights)
  /-- A cycle that someone remembers begins. -/
  rerun : ∀ {w : Watch} {flights : List Flight} {number : Nat} {lifetime : Lifetime},
    P w flights → w.inner.lifetimes[number]? = some lifetime →
    P (w.note (.reached (.began number))) (⟨number, false, w.programOf lifetime⟩ :: flights)
  /-- An effect of the innermost cycle. -/
  act : ∀ {w : Watch} {flights : List Flight} {number : Nat} {guarded : Bool} {effect : Effect}
    {rest : Dialogue Outcome}, P w (⟨number, guarded, .act effect rest⟩ :: flights) →
    P (w.act number effect) (⟨number, guarded, rest⟩ :: flights)
  /-- A request of the innermost cycle. -/
  ask : ∀ {w : Watch} {flights : List Flight} {number : Nat} {guarded : Bool} {request : Request}
    {next : Reply → Dialogue Outcome},
    P w (⟨number, guarded, .ask request next⟩ :: flights) →
    ∀ reply, P (w.note (.request request)) (⟨number, guarded, next reply⟩ :: flights)
  /-- The end of the innermost cycle. -/
  conclude : ∀ {w : Watch} {flights : List Flight} {number : Nat} {guarded : Bool}
    {outcome : Outcome}, P w (⟨number, guarded, .done outcome⟩ :: flights) →
    P ((w.conclude number outcome).2.release guarded) flights

namespace Kept

open Watch

variable {P : Watch → List Flight → Prop} {nested : Nested} {w : Watch} {flights : List Flight}

theorem note (hP : Kept P) (h : P w flights) {event : Event} (hquiet : event.isQuiet = true) :
    P (w.note event) flights :=
  hP.aside h (aside_note hquiet) rfl rfl

/-- What takes place beside the callbacks of jobs. -/
theorem proceed (hP : Kept P) (h : P w flights) {w' : Watch} (hproceeds : w.Proceeds w') :
    P w' flights :=
  hP.aside h (aside_of_proceeds hproceeds) (by rw [hproceeds.inner]) (by rw [hproceeds.inner])

theorem runNested (hP : Kept P) (hnested : Keeps P nested) (during : List Step)
    (h : P w flights) : P (Watch.runNested nested during w) flights := by
  induction during generalizing w with
  | nil => exact h
  | cons step rest ih => exact ih (hP.note (hnested step w flights h) rfl)

/-- A request of the innermost cycle with the steps within it. -/
theorem reply (hP : Kept P) (hnested : Keeps P nested) {number : Nat} {guarded : Bool}
    {request : Request} {next : Reply → Dialogue Outcome}
    (h : P w (⟨number, guarded, .ask request next⟩ :: flights)) :
    P (Watch.reply nested request w).2
      (⟨number, guarded, next (Watch.reply nested request w).1⟩ :: flights) := by
  cases hscript : w.inner.script with
  | nil =>
    have hreply : Watch.reply nested request w = (exhausted, w.note (.request request)) := by
      simp [Watch.reply, Timed.note, hscript]
    rw [hreply]
    exact hP.ask h exhausted
  | cons scripted rest =>
    have hreply : Watch.reply nested request w = (scripted.reply, Watch.runNested nested
        scripted.during ((w.note (.request request)).update ({ · with script := rest }))) := by
      simp [Watch.reply, Timed.note, hscript]
    rw [hreply]
    exact hP.runNested hnested _
      (hP.aside (hP.ask h scripted.reply) (aside_update rfl rfl rfl rfl rfl) rfl rfl)

/-- What is still to be done of the innermost cycle, up to its end. -/
theorem run (hP : Kept P) (hnested : Keeps P nested) {number : Nat} {guarded : Bool}
    {d : Dialogue Outcome} (h : P w (⟨number, guarded, d⟩ :: flights)) :
    P (d.run (Watch.reply nested) (Watch.act number) w).2
      (⟨number, guarded, .done (d.run (Watch.reply nested) (Watch.act number) w).1⟩ ::
        flights) := by
  induction d generalizing w with
  | done outcome => exact h
  | act effect rest ih => exact ih (hP.act h)
  | ask request next ih => exact ih _ (hP.reply hnested h)

/-- A cycle from its beginning to its end. -/
theorem runCycle (hP : Kept P) (hnested : Keeps P nested) {number : Nat} {guarded : Bool}
    {lifetime : Lifetime} (hlifetime : w.inner.lifetimes[number]? = some lifetime)
    (h : P (w.note (.reached (.began number)))
      (⟨number, guarded, w.programOf lifetime⟩ :: flights)) :
    P ((Watch.runCycle nested number w).2.release guarded) flights := by
  rw [Watch.runCycle_eq nested hlifetime]
  exact hP.conclude (hP.run hnested h)

theorem refreshed (hP : Kept P) (hnested : Keeps P nested) (h : P w flights) :
    P (Watch.refresh nested w).2 flights := by
  rcases Watch.refresh_cases nested w with
    heq | ⟨line, heq⟩ | ⟨number, hcycle, hactive, hfree, heq⟩
  · rwa [heq]
  · rw [heq]
    exact hP.note h rfl
  · rw [heq]
    cases hlifetime : w.inner.lifetimes[number]? with
    | none =>
      -- No such lifetime: the guard is taken and given back.
      rw [Watch.runCycle_of_none nested (by exact hlifetime)]
      exact hP.aside h ⟨rfl, rfl, rfl, hfree.symm, rfl, .refl _, [], rfl, by simp⟩ rfl rfl
    | some lifetime =>
      exact hP.runCycle hnested (w := w.update ({ · with isRunning := true })) hlifetime
        (hP.refresh h hcycle hactive hfree hlifetime)

/-! ### Jobs -/

/-- A run of a job: the refresh, and a report if it raised something. -/
theorem guarded (hP : Kept P) (hnested : Keeps P nested) (h : P w flights) :
    P (Timed.guarded (Watch.callback nested) w) flights := by
  have hrefreshed := hP.refreshed hnested h
  rw [← Watch.snd_callback] at hrefreshed
  unfold Timed.guarded
  dsimp only
  split
  · exact hP.note hrefreshed rfl
  · exact hrefreshed

/-- A job with all its runs. -/
theorem runJob (hP : Kept P) (hnested : Keeps P nested) (number waits : Nat)
    (patience : Option Float) (h : P w flights) :
    P (Watch.runJob nested number waits patience w) flights :=
  @Timed.join_preserves _ _ (P · flights) _ (fun _ hlife => hP.guarded hnested hlife)
    (fun _ _ hlife hproceeds => hP.proceed hlife hproceeds) number _ patience
    (hP.proceed h (Timed.proceeds_modify w number fun _ hjob => hjob))

/-! ### Steps -/

theorem commanded (hP : Kept P) (hnested : Keeps P nested) (text : RawText) (h : P w flights) :
    P (Watch.command nested text w).2 flights := by
  unfold Watch.command
  split
  · exact hP.refreshed hnested h
  · exact hP.note h rfl

theorem shutDown (hP : Kept P) (interrupted : Bool) (h : P w flights) :
    P (Watch.shutDown interrupted w) flights := by
  cases interrupted with
  | false => exact hP.note (hP.dispose h) rfl
  | true => exact hP.note (hP.dispose (hP.note h rfl)) rfl

/-- What a step yields, if the steps within its requests keep what holds. -/
theorem yield (hP : Kept P) (hnested : Keeps P nested) (step : Step) (h : P w flights) :
    P (Watch.yield nested step w).2 flights := by
  cases step <;> dsimp only [Watch.yield]
  case activate schedule => exact hP.activate h schedule
  case refresh => exact hP.refreshed hnested h
  case command text => exact hP.commanded hnested text h
  case dispose => exact hP.dispose h
  case respond replies => exact hP.aside h (aside_update rfl rfl rfl rfl rfl) rfl rfl
  case hold => exact hP.aside h (aside_update rfl rfl rfl rfl rfl) rfl rfl
  case runHeldCycle =>
    split
    · exact h
    · rename_i number hheld
      cases hlifetime : w.inner.lifetimes[number]? with
      | none =>
        rw [Watch.runCycle_of_none nested hlifetime]
        exact h
      | some lifetime => exact hP.runCycle hnested hlifetime (hP.rerun h hlifetime)
  case runHeldJob waits =>
    split
    · exact h
    · exact hP.runJob hnested _ waits none h
  case runJob waits =>
    split
    · exact h
    · exact hP.runJob hnested _ waits none h
  case cancelJob =>
    split
    · exact h
    · rename_i number hjob
      exact hP.aside h (aside_retime (f := fun t => (t.cancel number).1)
        (Timetable.tends_cancel _ number)) rfl rfl
  case setLocation location => exact hP.aside h (aside_update rfl rfl rfl rfl rfl) rfl rfl
  case bridge => exact h
  case close => exact hP.note h rfl
  case shutDown interrupted => exact hP.shutDown interrupted h

/-- A step with the steps within its requests, however deeply they lie. -/
theorem performWithin (hP : Kept P) (depth : Nat) : Keeps P (Watch.performWithin depth) := by
  induction depth with
  | zero => exact fun _ _ _ h => h
  | succ depth ih => exact fun step _ _ h => hP.yield ih step h

/-- A list of steps. -/
theorem steps (hP : Kept P) (list : List Step) (h : P w flights) :
    P (Watch.steps list w).2 flights := by
  induction list generalizing w with
  | nil => exact h
  | cons step rest ih => exact ih (hP.performWithin _ step w flights h)

end Kept

/-! ### Every run is a life -/

namespace Life

variable {nested : Nested} {w : Watch} {flights : List Flight}

/-- Steps within requests keep to a life. -/
def Nestable (nested : Nested) : Prop :=
  ∀ step w flights, Life w flights → Life (nested step w).2 flights

theorem kept : Kept Life where
  aside h haside _ _ := h.aside haside
  activate h schedule := h.activate schedule
  dispose h := h.dispose
  refresh h hcycle hactive hfree hlifetime := h.refresh hcycle hactive hfree hlifetime
  rerun h hlifetime := h.rerun hlifetime
  act h := h.act
  ask h reply := h.ask reply
  conclude h := h.conclude

/-- What a step yields, if the steps within its requests keep to a life. -/
theorem yield (hnested : Nestable nested) (step : Step) (h : Life w flights) :
    Life (Watch.yield nested step w).2 flights :=
  kept.yield hnested step h

/-- A list of steps. -/
theorem steps (list : List Step) (h : Life w flights) : Life (Watch.steps list w).2 flights :=
  kept.steps list h

end Life

end StationWatch
