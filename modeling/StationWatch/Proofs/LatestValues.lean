import StationWatch.Proofs.Onward
import StationWatch.Sink

/-!
# What a sink keeps

A sink that keeps everything takes every update, and answers what came last on a channel by
searching backwards.  At every
moment of a life this is the value that the last effective cycle with that channel had for it: the
last one that succeeded while its lifetime lasted.  The search through the sink and the search
through the outcomes agree because the table of a cycle has one row for each channel.  Values reach
the sink in batches, each with the status that the handler works right after it.

## Main definitions

* `Dialogue.Ends` — every end of a dialogue satisfies a predicate.
* `Cycle.Distinct` — a table has one row for each channel.
* `Outcome.valueOn?` — the value of an outcome on a channel.
* `Journal.effective` — the outcomes of the cycles that ended while their lifetime lasted.
* `Watch.sink` — a sink that has kept everything.
* `Watch.UpToDate` — what such a sink tells at every moment of a life.

## Main results

* `Cycle.program_ends` — the table of a cycle has one row for each channel.
* `Recorder.latest_deliveries` — the search through a sink.
* `Journal.batched_deliveries` — values come in batches.
* `sink_keeps_last_effective` — what a sink tells.

## References

`SPEC_FULL.md`, sections 4.3 and 6, on the values that a sink keeps.
-/

namespace StationWatch

/-! ### Ends of a dialogue -/

namespace Dialogue

variable {α β : Type} {P : β → Prop} {Q : α → Prop} {d : Dialogue α} {f : α → Dialogue β}

/-- Every end of a dialogue, whatever the replies, satisfies a predicate. -/
def Ends (P : α → Prop) : Dialogue α → Prop
  | .done result => P result
  | .act _ rest => Ends P rest
  | .ask _ next => ∀ reply, Ends P (next reply)

theorem ends_bind (h : d.Ends Q) (hf : ∀ result, Q result → (f result).Ends P) :
    (d >>= f).Ends P := by
  change (bind d f).Ends P
  induction d with
  | done result => exact hf result h
  | act effect rest ih => exact ih h
  | ask request next ih => exact fun reply => ih reply (h reply)

theorem ends_bind_of_forall (hf : ∀ result, (f result).Ends P) : (d >>= f).Ends P := by
  change (bind d f).Ends P
  induction d with
  | done result => exact hf result
  | act effect rest ih => exact ih
  | ask request next ih => exact fun reply => ih reply

end Dialogue

/-! ### One row for each channel -/

namespace Cycle

/-- No channel has two rows. -/
def Distinct (values : ChannelValues) : Prop :=
  values.Pairwise fun row other => row.1.sameKey other.1 = false

theorem distinct_nil : Distinct [] := List.Pairwise.nil

/-- What stands in a table after a value was put there: a channel that was there before, or the one
of the value. -/
theorem fst_of_mem_putValue {channel : Json} {reading : Reading} {values : ChannelValues}
    {row : Json × Reading} (h : row ∈ putValue channel reading values) :
    row.1 = channel ∨ ∃ old ∈ values, old.1 = row.1 := by
  induction values with
  | nil =>
    rw [putValue, List.mem_singleton] at h
    exact .inl (by rw [h])
  | cons first rest ih =>
    rw [putValue] at h
    split at h
    · rcases List.mem_cons.1 h with rfl | h
      · exact .inr ⟨first, List.mem_cons_self, rfl⟩
      · exact .inr ⟨row, List.mem_cons_of_mem _ h, rfl⟩
    · rcases List.mem_cons.1 h with rfl | h
      · exact .inr ⟨row, List.mem_cons_self, rfl⟩
      · rcases ih h with hnew | ⟨old, hold, heq⟩
        · exact .inl hnew
        · exact .inr ⟨old, List.mem_cons_of_mem _ hold, heq⟩

theorem Distinct.putValue {values : ChannelValues} (h : Distinct values) (channel : Json)
    (reading : Reading) : Distinct (putValue channel reading values) := by
  induction values with
  | nil => exact List.pairwise_singleton _ _
  | cons first rest ih =>
    obtain ⟨hfirst, hrest⟩ := List.pairwise_cons.1 h
    rw [Cycle.putValue]
    split
    · exact List.pairwise_cons.2 ⟨hfirst, hrest⟩
    · rename_i hother
      refine List.pairwise_cons.2 ⟨fun row hrow => ?_, ih hrest⟩
      rcases fst_of_mem_putValue hrow with heq | ⟨old, hold, heq⟩
      · rw [heq]
        simpa using hother
      · rw [← heq]
        exact hfirst old hold

/-- In such a table it makes no difference from which end a row is searched. -/
theorem Distinct.find?_reverse {values : ChannelValues} (h : Distinct values) (c : RawText) :
    values.reverse.find? (·.1.sameKey (.str c)) = values.find? (·.1.sameKey (.str c)) := by
  induction values with
  | nil => rfl
  | cons first rest ih =>
    obtain ⟨hfirst, hrest⟩ := List.pairwise_cons.1 h
    rw [List.reverse_cons, List.find?_append, ih hrest]
    cases hc : first.1.sameKey (.str c) with
    | false => simp [hc]
    | true =>
      -- The channel of the first row is the text, so no later row has it.
      have hnone : rest.find? (·.1.sameKey (.str c)) = none := by
        refine List.find?_eq_none.2 fun row hrow hmatch => ?_
        have hdiffers := hfirst row hrow
        rw [Json.sameKey_str_right.1 hc, Json.sameKey_str_right.1 hmatch] at hdiffers
        simp at hdiffers
      simp [hc, hnone]

/-! ### The table of a cycle -/

@[simp] theorem values_ofFetchFault (fault : FetchFault) (stage : Stage) :
    (Outcome.ofFetchFault fault stage).values = [] := by
  cases fault <;> rfl

/-- An outcome, if there is one, has one row for each channel. -/
def EndsDistinct (result : Except Fault Outcome) : Prop :=
  ∀ outcome, result = .ok outcome → Distinct outcome.values

theorem endsDistinct_ok {outcome : Outcome} (h : Distinct outcome.values) :
    EndsDistinct (.ok outcome) := by
  rintro _ ⟨⟩
  exact h

theorem endsDistinct_error (fault : Fault) : EndsDistinct (.error fault) := by
  rintro _ ⟨⟩

variable {service : Service} {registry : Registry} {settings : WeatherSettings}

theorem readAll_ends {station : RankedStation} (names : List RawText) {values : ChannelValues}
    (h : Distinct values) :
    (readAll service registry settings station names values).Ends EndsDistinct := by
  induction names generalizing values with
  | nil => exact endsDistinct_ok h
  | cons name names ih =>
    rw [readAll]
    split
    · exact endsDistinct_ok distinct_nil
    · rename_i m hm
      refine Dialogue.ends_bind_of_forall fun result => ?_
      split
      · split
        · exact ih (h.putValue _ _)
        · exact endsDistinct_error _
      · refine Dialogue.ends_bind_of_forall fun _ => endsDistinct_ok ?_
        rw [values_ofFetchFault]
        exact distinct_nil
      · exact endsDistinct_error _

theorem execute_ends {p : ReferencePoint} :
    (execute service registry settings p).Ends EndsDistinct := by
  refine Dialogue.ends_bind_of_forall fun _ => Dialogue.ends_bind_of_forall fun found => ?_
  split
  · refine Dialogue.ends_bind_of_forall fun _ => endsDistinct_ok ?_
    rw [values_ofFetchFault]
    exact distinct_nil
  · exact endsDistinct_error _
  · exact Dialogue.ends_bind_of_forall fun _ => readAll_ends _ distinct_nil

/-- The table of a cycle has one row for each channel, whatever the network answers. -/
theorem program_ends {p : ReferencePoint} :
    (program service registry settings p).Ends fun outcome => Distinct outcome.values := by
  refine Dialogue.ends_bind execute_ends fun result hresult => ?_
  cases result with
  | ok outcome => exact hresult outcome rfl
  | error fault => exact Dialogue.ends_bind_of_forall fun _ => distinct_nil

end Cycle

/-! ### The search through a sink -/

/-- The value of an outcome on a channel: success has those of its table, anything else has none. -/
def Outcome.valueOn? (outcome : Outcome) (channel : RawText) : Option Reading :=
  (outcome.values.find? (·.1.sameKey (.str channel))).map Prod.snd

/-- The channel and the value of an announcement, if it is one of a value. -/
def Announcement.value? : Announcement → Option (Json × Reading)
  | .value channel reading => some (channel, reading)
  | .status _ => none

theorem Outcome.values_of_not_isSuccess {outcome : Outcome} (h : outcome.isSuccess = false) :
    outcome.values = [] := by
  cases outcome with
  | success table station => cases h
  | _ => rfl

theorem Outcome.filterMap_announcements (outcome : Outcome) :
    outcome.announcements.filterMap Announcement.value? = outcome.values := by
  simp [announcements, List.filterMap_map, Function.comp_def, Announcement.value?]

namespace Recorder

/-- A sink keeps the values that it receives, in order. -/
theorem values_receiveAll (r : Recorder) (announcements : List Announcement) :
    (r.receiveAll announcements).values =
      r.values ++ announcements.filterMap Announcement.value? := by
  induction announcements generalizing r with
  | nil => simp [receiveAll]
  | cons a rest ih =>
    change ((r.receive a).receiveAll rest).values = _
    rw [ih]
    cases a <;> simp [receive, Announcement.value?, List.filterMap_cons]

/-- What comes later is found first. -/
theorem latest_append (announcements more : List Announcement) (channel : Json) :
    (empty.receiveAll (announcements ++ more)).latest channel =
      ((empty.receiveAll more).latest channel).or
        ((empty.receiveAll announcements).latest channel) := by
  simp only [latest, values_receiveAll, List.filterMap_append, List.reverse_append, empty,
    List.nil_append, List.find?_append, Option.map_or]

theorem latest_announcements {outcome : Outcome} (h : Cycle.Distinct outcome.values)
    (channel : RawText) : (empty.receiveAll outcome.announcements).latest (.str channel) =
      outcome.valueOn? channel := by
  rw [latest, values_receiveAll, outcome.filterMap_announcements, empty, List.nil_append,
    h.find?_reverse]
  rfl

end Recorder

namespace Journal

/-- The outcomes of the cycles that ended while the lifetime in which they were made lasted, the
last one first. -/
def effective : Journal → List Outcome
  | [] => []
  | .reached (.concluded number outcome) :: rest =>
    if Lasts number rest then outcome :: effective rest else effective rest
  | _ :: rest => effective rest

/-- The table of a cycle that ends with an entry, if one does, has one row for each channel, and the
sink took all of it. -/
def IsTabular : Event → Prop
  | .reached (.concluded _ outcome) => Cycle.Distinct outcome.values
  | .reached (.broken _ _ _) => False
  | _ => True

theorem isTabular_of_isQuiet {event : Event} (h : event.isQuiet = true) : IsTabular event := by
  cases event with
  | reached milestone => cases h
  | _ => trivial

theorem isTabular_announced {announcements : List Announcement} :
    ∀ event ∈ announcements.map Event.announced, IsTabular event := by
  intro event hevent
  obtain ⟨a, -, rfl⟩ := List.mem_map.1 hevent
  trivial

/-- The search through what the milestones account for finds the last effective outcome with the
channel. -/
theorem latest_deliveries {journal : Journal} (h : ∀ event ∈ journal, IsTabular event)
    (channel : RawText) :
    (Recorder.empty.receiveAll journal.deliveries).latest (.str channel) =
      journal.effective.findSome? (·.valueOn? channel) := by
  induction journal with
  | nil => rfl
  | cons event rest ih =>
    -- What the last entry accounts for is searched first, and so is its outcome.
    obtain ⟨hevent, hrest⟩ := List.forall_mem_cons.1 h
    rw [deliveries, Recorder.latest_append, ih hrest]
    cases event with
    | reached milestone =>
      cases milestone with
      | concluded number outcome =>
        by_cases hlasts : Lasts number rest
        · rw [due, if_pos hlasts, effective, if_pos hlasts, List.findSome?_cons,
            Recorder.latest_announcements hevent]
          cases outcome.valueOn? channel <;> rfl
        · rw [due, if_neg hlasts, effective, if_neg hlasts]
          rfl
      | broken number outcome told => exact hevent.elim
      | _ => rfl
    | _ => rfl

end Journal

/-! ### Batches -/

/-- After every value come further values only, until the status that the handler works. -/
def Batched (announcements : List Announcement) : Prop :=
  ∀ before channel reading after, announcements = before ++ .value channel reading :: after →
    ∃ more rest, after = more ++ .status .online :: rest ∧
      ∀ a ∈ more, ∃ channel reading, a = .value channel reading

theorem batched_values (values : ChannelValues) :
    Batched ((values.map fun row => .value row.1 row.2) ++ [.status .online]) := by
  intro before channel reading after h
  rcases List.append_eq_append_iff.1 h with ⟨skipped, -, hafter⟩ | ⟨taken, hvalues, hafter⟩
  · cases skipped <;> simp at hafter
  · cases taken with
    | nil => simp at hafter
    | cons first taken =>
      rw [List.cons_append, List.cons.injEq] at hafter
      refine ⟨taken, [], hafter.2, fun a ha => ?_⟩
      have hmem : a ∈ values.map fun row => Announcement.value row.1 row.2 := by
        rw [hvalues]
        exact List.mem_append_right _ (List.mem_cons_of_mem _ ha)
      obtain ⟨row, -, rfl⟩ := List.mem_map.1 hmem
      exact ⟨_, _, rfl⟩

/-- A status alone is no batch. -/
theorem batched_status (update : StatusUpdate) : Batched [.status update] := by
  intro before channel reading after h
  cases before <;> simp at h

theorem batched_announcements (outcome : Outcome) : Batched outcome.announcements := by
  cases outcome with
  | success values station => exact batched_values values
  | _ => exact batched_status _

theorem Batched.append {announcements more : List Announcement} (h : Batched announcements)
    (hmore : Batched more) : Batched (announcements ++ more) := by
  intro before channel reading after heq
  -- Either the value is one of the second part, or its status comes in the first part already.
  rcases List.append_eq_append_iff.1 heq with ⟨skipped, hbefore, hafter⟩ | ⟨taken, hbefore, hafter⟩
  · exact hmore skipped channel reading after hafter
  · cases taken with
    | nil => exact hmore [] channel reading after hafter.symm
    | cons first taken =>
      rw [List.cons_append, List.cons.injEq] at hafter
      obtain ⟨values, rest, htaken, hvalues⟩ :=
        h before channel reading taken (by rw [hbefore, hafter.1])
      exact ⟨values, rest ++ more, by rw [hafter.2, htaken]; simp, hvalues⟩

/-- What the milestones account for comes in batches. -/
theorem Journal.batched_deliveries {journal : Journal} (h : ∀ event ∈ journal, IsTabular event) :
    Batched journal.deliveries := by
  induction journal with
  | nil =>
    intro before channel reading after h
    cases before <;> cases h
  | cons event rest ih =>
    obtain ⟨hevent, hrest⟩ := List.forall_mem_cons.1 h
    refine (ih hrest).append ?_
    have hnone : Batched [] := by
      intro before channel reading after h
      cases before <;> cases h
    cases event with
    | reached milestone =>
      cases milestone with
      | activated number => exact batched_status _
      | refused fault => exact batched_announcements _
      | concluded number outcome =>
        rw [due]
        split
        · exact batched_announcements outcome
        · exact hnone
      | broken number outcome told => exact hevent.elim
      | _ => exact hnone
    | _ => exact hnone

/-! ### Every moment of a life -/

/-- A cycle that is not broken off ends with its outcome. -/
theorem Watch.Concludes.isTabular {number : Nat} {outcome : Outcome} {isOpen : Bool}
    {ending : Milestone} {told : List Announcement}
    (h : Watch.Concludes number outcome isOpen none ending told)
    (hdistinct : Cycle.Distinct outcome.values) : Journal.IsTabular (.reached ending) := by
  cases h with
  | unheard => exact hdistinct
  | whole => exact hdistinct

namespace Life

variable {w : Watch} {flights : List Flight}

/-- The cycles in flight end with tables of one row for each channel, as all those before did. -/
theorem tabular (h : Life w flights) (hsteady : w.inner.sink = .steady) :
    (∀ event ∈ w.journal, Journal.IsTabular event) ∧
      ∀ flight ∈ flights, flight.rest.Ends fun outcome => Cycle.Distinct outcome.values := by
  induction h with
  | start bridge settings registry sink => exact ⟨by simp [Timed.start], by simp⟩
  | aside h haside ih =>
    specialize ih (haside.sink.symm.trans hsteady)
    obtain ⟨news, hjournal, hquiet⟩ := haside.journal
    rw [hjournal]
    exact ⟨List.forall_mem_append.2 ⟨fun event hevent =>
      Journal.isTabular_of_isQuiet (hquiet event hevent), ih.1⟩, ih.2⟩
  | @activate w flights h schedule ih =>
    specialize ih ((w.onward_activate schedule).sink.symm.trans hsteady)
    refine ⟨?_, ih.2⟩
    rcases w.activate_cases schedule with
      ⟨fault, heq⟩ | ⟨p, news, refreshJob, hjournal, hquiet, -⟩
    · rw [heq]
      simpa [Watch.refused, Timed.log, Timed.note, Journal.IsTabular] using ih.1
    · rw [hjournal]
      refine List.forall_mem_append.2 ⟨fun event hevent =>
        Journal.isTabular_of_isQuiet (hquiet event hevent), ?_⟩
      simpa [Watch.begun, Timed.note, Timed.update, Journal.IsTabular] using ih.1
  | @dispose w flights h ih =>
    specialize ih (w.onward_dispose.sink.symm.trans hsteady)
    obtain ⟨news, entry, hjournal, hquiet⟩ := w.journal_dispose
    rw [hjournal]
    refine ⟨List.forall_mem_append.2 ⟨fun event hevent =>
      Journal.isTabular_of_isQuiet (hquiet event hevent), ?_⟩, ih.2⟩
    simpa [Journal.IsTabular] using ih.1
  | refresh h hcycle hactive hfree hlifetime ih =>
    -- A cycle begins, and will end with such a table whatever the replies are.
    exact ⟨List.forall_mem_cons.2 ⟨trivial, (ih hsteady).1⟩,
      List.forall_mem_cons.2 ⟨Cycle.program_ends, (ih hsteady).2⟩⟩
  | rerun h hlifetime ih =>
    exact ⟨List.forall_mem_cons.2 ⟨trivial, (ih hsteady).1⟩,
      List.forall_mem_cons.2 ⟨Cycle.program_ends, (ih hsteady).2⟩⟩
  | @act w flights number guarded effect rest h ih =>
    specialize ih ((w.onward_act number effect).sink.symm.trans hsteady)
    obtain ⟨hrest, hflights⟩ := List.forall_mem_cons.1 ih.2
    refine ⟨?_, List.forall_mem_cons.2 ⟨hrest, hflights⟩⟩
    cases effect with
    | enter phase => exact ih.1
    | _ => exact List.forall_mem_cons.2 ⟨trivial, ih.1⟩
  | ask h reply ih =>
    obtain ⟨hnext, hflights⟩ := List.forall_mem_cons.1 (ih hsteady).2
    exact ⟨List.forall_mem_cons.2 ⟨trivial, (ih hsteady).1⟩,
      List.forall_mem_cons.2 ⟨hnext reply, hflights⟩⟩
  | @conclude w flights number guarded outcome h ih =>
    have honward := (w.onward_conclude number outcome).trans (Watch.onward_release _ guarded)
    have hbefore : w.inner.sink = .steady := honward.sink.symm.trans hsteady
    obtain ⟨hdone, hflights⟩ := List.forall_mem_cons.1 (ih hbefore).2
    -- The sink takes all that the cycle publishes, so the cycle is not broken off.
    obtain ⟨fault, ending, told, hends, heq⟩ := w.exists_concludes number outcome
    have hnone := Watch.conclude_of_steady hbefore number outcome
    rw [heq] at hnone
    obtain rfl : fault = none := hnone
    refine ⟨?_, hflights⟩
    rw [Watch.release_eq, heq]
    exact List.forall_mem_cons.2 ⟨hends.isTabular hdone,
      List.forall_mem_append.2 ⟨Journal.isTabular_announced, (ih hbefore).1⟩⟩

end Life

/-- A sink that has kept everything. -/
def Watch.sink (w : Watch) : Recorder := Recorder.empty.receiveAll w.journal.announcements

/-- What a sink that keeps everything tells at every moment of a life. -/
structure Watch.UpToDate (w : Watch) : Prop where
  /-- The latest value on a channel is that of the last effective cycle with this channel. -/
  latest : ∀ channel, w.sink.latest (.str channel) =
    w.journal.effective.findSome? (·.valueOn? channel)
  /-- A cycle that fails or whose lifetime is over when it ends changes no latest value. -/
  unmoved : ∀ number outcome, outcome.isSuccess = false ∨ ¬ w.journal.Lasts number →
    ∀ channel, (w.conclude number outcome).2.sink.latest (.str channel) =
      w.sink.latest (.str channel)
  /-- After every value come further values only, until the status that the handler works. -/
  batched : Batched w.journal.announcements

theorem Life.upToDate {w : Watch} {flights : List Flight} (h : Life w flights)
    (hsteady : w.inner.sink = .steady) : w.UpToDate where
  latest channel := by
    rw [Watch.sink, h.settled.announcements]
    exact Journal.latest_deliveries (h.tabular hsteady).1 channel
  unmoved number outcome hcase channel := by
    obtain ⟨told, -, hannounced, hwhole, hnone⟩ := h.settled.announcements_conclude number outcome
    rw [hwhole (hnone hsteady)] at hannounced
    rw [Watch.sink, hannounced, Recorder.latest_append]
    have hunmoved : (Recorder.empty.receiveAll
        (if w.journal.Lasts number then outcome.announcements else [])).latest
          (.str channel) = none := by
      split
      · rename_i hlasts
        have hvalues : outcome.values = [] := by
          rcases hcase with hfailed | hover
          · exact outcome.values_of_not_isSuccess hfailed
          · exact absurd hlasts hover
        rw [Recorder.latest_announcements (by rw [hvalues]; exact Cycle.distinct_nil),
          Outcome.valueOn?, hvalues]
        rfl
      · rfl
    rw [hunmoved]
    rfl
  batched := by
    rw [h.settled.announcements]
    exact Journal.batched_deliveries (h.tabular hsteady).1

/-- **A sink keeps the values of the last effective cycle.**  A handler that nothing has happened to
is at a moment of a life, lists of steps keep to a life and to the sink, and a step is orderly
whatever takes place within its requests, as long as that is.  At every moment of a life with a sink
that takes every update, the latest value on a channel is the one of the last cycle that succeeded
with this channel while its lifetime lasted, a cycle that fails or comes too late changes none, and
no value is followed by anything but values before the status that the handler works. -/
theorem sink_keeps_last_effective :
    (∀ bridge settings registry,
      let w : Watch := Timed.start (.create bridge settings registry)
      Life w [] ∧ w.inner.sink = .steady) ∧
    (∀ w flights list, Life w flights → Life (Watch.steps list w).2 flights ∧
      (Watch.steps list w).2.inner.sink = w.inner.sink) ∧
    (∀ nested, Watch.Orderly nested → Watch.Orderly (Watch.perform nested)) ∧
    ∀ w flights, Life w flights → w.inner.sink = .steady → w.UpToDate :=
  ⟨fun _ _ _ => ⟨.start _ _ _ _, rfl⟩,
    fun w _ list h => ⟨h.steps list, (w.onward_steps list).sink⟩, fun _ h => h.perform,
    fun _ _ h hsteady => h.upToDate hsteady⟩

/-- The replies to a cycle that reads one measurement: a list of one location, and a list of one
data stream with one observation. -/
def measuredReplies : List ScriptedReply :=
  [.plain (.response
      ⟨200, "\x7b\"value\":[\x7b\"@iot.id\":1,\"location\":\x7b\"coordinates\":[7,51]\x7d\x7d]\x7d",
        "OK"⟩),
    .plain (.response
      ⟨200, "\x7b\"value\":[\x7b\"Observations\":[\x7b\"result\":1\x7d]\x7d]\x7d", "OK"⟩)]

/-- Steps in which a cycle succeeds and the next one fails. -/
def measuring : List Step :=
  [.activate false, .respond measuredReplies, .refresh,
    .respond [.plain (.response ⟨404, "", "Not Found"⟩)], .refresh]

/-- A handler that measures one thing, before anything happened. -/
def thermometer : Watch :=
  Timed.start (.create ⟨.connect { baseUrl := "/v1" }, 60⟩
    { location := "51.2,7.1", measurements := ["TEMPERATURE"] } .builtIn)

/-- A life of these steps. -/
def measured : Watch := (Watch.steps measuring thermometer).2

/-- The value of the first cycle is still the latest one. -/
theorem measured_upToDate : Life measured [] ∧ measured.inner.sink = .steady ∧ measured.UpToDate ∧
    measured.journal.effective.length = 2 ∧
    (measured.sink.latest (.str "temperature")).isSome = true := by
  obtain ⟨hstart, hsteady⟩ : Life thermometer [] ∧ thermometer.inner.sink = .steady :=
    sink_keeps_last_effective.1 _ _ _
  obtain ⟨hlife, hsink⟩ := sink_keeps_last_effective.2.1 thermometer [] measuring hstart
  have hsame : measured.inner.sink = .steady := by
    unfold measured
    exact hsink.trans hsteady
  exact ⟨hlife, hsame, sink_keeps_last_effective.2.2.2 measured [] hlife hsame, by decide +kernel,
    by decide +kernel⟩

end StationWatch
