import StationWatch.Proofs.Exchange

/-!
# What a cycle publishes

A cycle publishes all its values and then the status that the thing works, or no value at all and
then the status that it does not.  The values of a successful cycle form a table by channel: two
measurements on one channel share a row, which stands where the channel first occurs and holds the
value that was read last.

## Main definitions

* `Registry.HasTextChannels` — every registered kind publishes on a channel that is a text.
* `Cycle.InTurn` — measurements read one after another, each with its value.
* `Cycle.Tabulated` — a table of the values of measurements, by channel.
* `Cycle.Reads` — a table of all measurements of a cycle, read at the nearest station.

## Main results

* `Tabulated.concat` — one more measurement in the table.
* `readAll_success`, `program_success` — what a successful cycle has read.
* `runCycle_announces_all_or_none` — the values and the status that a cycle publishes.

## References

`SPEC_FULL.md`, section 4.3, on what is published.
-/

namespace StationWatch

/-- Every registered kind publishes on a channel that is a text. -/
def Registry.HasTextChannels (r : Registry) : Prop :=
  ∀ entry ∈ r, ∃ channel, entry.2.channel = .str channel

theorem Registry.mem_of_find? {r : Registry} {k : RawText} {m : Measurement}
    (h : r.find? k = some m) : (k, m) ∈ r := by
  induction r with
  | nil => simp [find?] at h
  | cons entry rest ih =>
    rw [find?] at h
    split at h
    · rename_i hk
      cases h
      rw [← hk]
      exact List.mem_cons_self
    · exact List.mem_cons_of_mem _ (ih h)

theorem Registry.HasTextChannels.channel_eq {r : Registry} (h : r.HasTextChannels)
    {name : RawText} {m : Measurement} (hm : r.get? name = some m) :
    ∃ channel, m.channel = .str channel :=
  h _ (mem_of_find? hm)

theorem Registry.hasTextChannels_of_map {r : Registry} (channels : List RawText)
    (h : r.map (fun entry => entry.2.channel) = channels.map Json.str) : r.HasTextChannels := by
  intro entry hentry
  have hmem :=
    List.mem_map_of_mem (f := fun entry : RawText × Measurement => entry.2.channel) hentry
  rw [h] at hmem
  obtain ⟨channel, -, hchannel⟩ := List.mem_map.1 hmem
  exact ⟨channel, hchannel.symm⟩

theorem Registry.builtIn_hasTextChannels : Registry.builtIn.HasTextChannels :=
  hasTextChannels_of_map ["humidity", "temperature"] rfl

namespace Outcome

@[simp] theorem ofFetchFault_ne_success (fault : FetchFault) (stage : Stage)
    (table : ChannelValues) (station : RankedStation) :
    ofFetchFault fault stage ≠ .success table station := by
  cases fault <;> simp [ofFetchFault]

end Outcome

namespace Cycle

/-! ### The table of values -/

/-- A table of the values of measurements, by channel: one row for each channel, in the order in
which the channels first occur, with the value of the last measurement on it. -/
structure Tabulated (measured : List (Measurement × Float)) (table : ChannelValues) : Prop where
  /-- The rows stand in the order in which the channels first occur. -/
  channels : ∃ names : List RawText, measured.map (fun r => r.1.channel) = names.map Json.str ∧
    table.map Prod.fst = names.eraseDups.map Json.str
  /-- No channel has two rows. -/
  distinct : (table.map Prod.fst).Nodup
  /-- A row holds the value of the last measurement on its channel, with the unit if there is
  one. -/
  latest : ∀ row ∈ table, ∃ before m x after, measured = before ++ (m, x) :: after ∧
    m.channel = row.1 ∧ (∀ other ∈ after, other.1.channel ≠ row.1) ∧
    row.2 = if m.unit.isVacant then .decimal x else .quantity x m.unit

theorem tabulated_nil : Tabulated [] [] where
  channels := ⟨[], rfl, rfl⟩
  distinct := List.nodup_nil
  latest := by simp

/-- A row is put in the place of the one with its channel, or at the end. -/
theorem keys_putValue {names : List RawText} {table : ChannelValues} (c : RawText)
    (reading : Reading) (h : table.map Prod.fst = names.map Json.str) :
    (putValue (.str c) reading table).map Prod.fst =
      (if c ∈ names then names else names ++ [c]).map Json.str := by
  induction table generalizing names with
  | nil =>
    have hnames : names = [] := by simpa using h.symm
    simp [putValue, hnames]
  | cons row rest ih =>
    cases names with
    | nil => simp at h
    | cons name names =>
      rw [List.map_cons, List.map_cons, List.cons.injEq] at h
      rw [putValue, h.1, Json.sameKey_str]
      by_cases hc : name = c
      · subst hc
        simp [h.2]
      · have hcons : (if c ∈ name :: names then name :: names else name :: names ++ [c]) =
            name :: if c ∈ names then names else names ++ [c] := by
          by_cases hmem : c ∈ names <;> simp [hmem, Ne.symm hc]
        simp only [beq_iff_eq, hc, if_false, List.map_cons, h.1, ih h.2]
        rw [hcons, List.map_cons]

/-- What stands in a table after a row was put there. -/
theorem mem_putValue {names : List RawText} {table : ChannelValues} {c : RawText}
    {reading : Reading} {row : Json × Reading} (h : table.map Prod.fst = names.map Json.str)
    (hdistinct : (table.map Prod.fst).Nodup) (hrow : row ∈ putValue (.str c) reading table) :
    row = (.str c, reading) ∨ row ∈ table ∧ row.1 ≠ .str c := by
  induction table generalizing names with
  | nil => simpa [putValue] using hrow
  | cons first rest ih =>
    cases names with
    | nil => simp at h
    | cons name names =>
      rw [List.map_cons, List.map_cons, List.cons.injEq] at h
      rw [List.map_cons, List.nodup_cons] at hdistinct
      rw [putValue, h.1, Json.sameKey_str] at hrow
      by_cases hc : name = c
      · subst hc
        simp only [beq_self_eq_true, if_true, List.mem_cons] at hrow
        rcases hrow with rfl | hrow
        · exact .inl rfl
        · refine .inr ⟨List.mem_cons_of_mem _ hrow, fun heq => hdistinct.1 ?_⟩
          rw [h.1, ← heq]
          exact List.mem_map_of_mem hrow
      · simp only [beq_iff_eq, hc, if_false, List.mem_cons] at hrow
        rcases hrow with rfl | hrow
        · exact .inr ⟨List.mem_cons_self, by rw [h.1]; simpa using hc⟩
        · rcases ih h.2 hdistinct.2 hrow with rfl | ⟨hmem, hne⟩
          · exact .inl rfl
          · exact .inr ⟨List.mem_cons_of_mem _ hmem, hne⟩

/-- One more measurement in the table. -/
theorem Tabulated.concat {measured : List (Measurement × Float)} {table : ChannelValues}
    (h : Tabulated measured table) {m : Measurement} {c : RawText} (hc : m.channel = .str c)
    (x : Float) :
    Tabulated (measured ++ [(m, x)]) (putValue (.str c) (.ofUnit x m.unit) table) := by
  obtain ⟨names, hmeasured, htable⟩ := h.channels
  have hkeys := keys_putValue c (.ofUnit x m.unit) htable
  refine ⟨⟨names ++ [c], ?_, ?_⟩, ?_, ?_⟩
  · -- the channels measured
    simp [hmeasured, hc]
  · -- the rows: a channel that occurred before keeps its place
    rw [hkeys, List.eraseDups_append]
    by_cases hmem : c ∈ names
    · simp [List.mem_eraseDups, List.cons_removeAll, hmem]
    · simp [List.mem_eraseDups, List.cons_removeAll, List.eraseDups_cons, hmem]
  · have hdistinct := h.distinct
    rw [htable] at hdistinct
    rw [hkeys]
    by_cases hmem : c ∈ names.eraseDups
    · rwa [if_pos hmem]
    · rw [if_neg hmem, List.map_append, List.nodup_append]
      refine ⟨hdistinct, by simp, ?_⟩
      intro key hkey last hlast heq
      rw [List.map_singleton, List.mem_singleton] at hlast
      rw [heq, hlast] at hkey
      exact hmem (by simpa using hkey)
  · -- the last values: the new measurement replaces those on its own channel only
    intro row hrow
    rcases mem_putValue htable h.distinct hrow with rfl | ⟨hold, hne⟩
    · exact ⟨measured, m, x, [], rfl, hc, by simp, rfl⟩
    · obtain ⟨before, m', x', after, hsplit, hchannel, hafter, hreading⟩ := h.latest row hold
      refine ⟨before, m', x', after ++ [(m, x)], by simp [hsplit], hchannel, ?_, hreading⟩
      intro other hother
      rcases List.mem_append.1 hother with hother | hother
      · exact hafter other hother
      · rw [List.mem_singleton] at hother
        rw [hother, hc]
        exact hne.symm

/-! ### Measurements read in turn -/

section

variable {service : Service} {registry : Registry} {settings : WeatherSettings}
variable {station : RankedStation}

/-- Measurements read one after another at a station: each name is registered, each reading finds
the replies that the ones before have left, and yields its value. -/
inductive InTurn (service : Service) (registry : Registry) (settings : WeatherSettings)
    (station : RankedStation) : List RawText → List Reply → List (Measurement × Float) → Prop
  /-- Nothing is left to be read. -/
  | nil (replies : List Reply) : InTurn service registry settings station [] replies []
  /-- One measurement is read, and then the others. -/
  | cons {name : RawText} {names : List RawText} {replies : List Reply} {m : Measurement}
      {x : Float} {measured : List (Measurement × Float)} (hm : registry.get? name = some m)
      (hx : ((read service settings name m station).exchange replies).result = .ok x)
      (hrest : InTurn service registry settings station names
        ((read service settings name m station).exchange replies).rest measured) :
      InTurn service registry settings station (name :: names) replies ((m, x) :: measured)

/-- A successful reading of the remaining measurements extends the table of those before. -/
theorem readAll_success (hregistry : registry.HasTextChannels) {names : List RawText}
    {replies : List Reply} {done : List (Measurement × Float)} {values table : ChannelValues}
    {found : RankedStation} (hdone : Tabulated done values)
    (h : ((readAll service registry settings station names values).exchange replies).result =
      .ok (.success table found)) :
    found = station ∧ ∃ measured, InTurn service registry settings station names replies measured ∧
      Tabulated (done ++ measured) table := by
  -- The table so far belongs to the measurements done, and both grow together.
  induction names generalizing replies done values with
  | nil =>
    rw [readAll] at h
    cases h
    exact ⟨rfl, [], .nil replies, by simpa using hdone⟩
  | cons name names ih =>
    rw [readAll] at h
    cases hm : registry.get? name with
    | none =>
      rw [hm] at h
      cases h
    | some m =>
      obtain ⟨c, hc⟩ := hregistry.channel_eq hm
      simp only [hm, Dialogue.exchange_bind] at h
      cases hx : ((read service settings name m station).exchange replies).result with
      | error fault => cases fault <;> simp [hx] at h
      | ok x =>
        simp only [hx, hc, Json.isKey, if_true] at h
        obtain ⟨hfound, measured, hmeasured, htable⟩ := ih (hdone.concat hc x) h
        refine ⟨hfound, (m, x) :: measured, .cons hm hx hmeasured, ?_⟩
        simpa using htable

end

/-! ### The whole cycle -/

/-- A table of all measurements of a cycle: the nearest station is found with the first replies, and
the measurements are read there in turn with the ones that are left. -/
def Reads (service : Service) (registry : Registry) (settings : WeatherSettings)
    (p : ReferencePoint) (replies : List Reply) (table : ChannelValues) (station : RankedStation) :
    Prop :=
  ∃ count measured, ((findStation service p).exchange replies).result = .ok (station, count) ∧
    InTurn service registry settings station settings.measurements
      ((findStation service p).exchange replies).rest measured ∧
    Tabulated measured table

section

variable {service : Service} {registry : Registry} {settings : WeatherSettings}
variable {p : ReferencePoint}

theorem execute_success (hregistry : registry.HasTextChannels) {replies : List Reply}
    {table : ChannelValues} {station : RankedStation}
    (h : ((execute service registry settings p).exchange replies).result =
      .ok (.success table station)) :
    Reads service registry settings p replies table station := by
  simp only [execute, Dialogue.exchange_bind, Dialogue.exchange_enter] at h
  cases hfound : ((findStation service p).exchange replies).result with
  | error fault => cases fault <;> simp [hfound] at h
  | ok found =>
    obtain ⟨nearest, count⟩ := found
    simp only [hfound, Dialogue.exchange_bind, noteStation, Dialogue.exchange_log,
      Dialogue.exchange_enter] at h
    obtain ⟨rfl, measured, hmeasured, htable⟩ := readAll_success hregistry tabulated_nil h
    exact ⟨count, measured, hfound, hmeasured, by simpa using htable⟩

theorem program_success (hregistry : registry.HasTextChannels) {replies : List Reply}
    {table : ChannelValues} {station : RankedStation}
    (h : ((program service registry settings p).exchange replies).result =
      .success table station) :
    Reads service registry settings p replies table station := by
  simp only [program, Dialogue.exchange_bind] at h
  cases hexecuted : ((execute service registry settings p).exchange replies).result with
  | error fault => simp [hexecuted] at h
  | ok outcome =>
    refine execute_success hregistry ?_
    simp only [hexecuted, Dialogue.exchange_pure] at h
    rw [hexecuted, h]

end

end Cycle

namespace Session

/-- **A cycle publishes all its values or none.**  Whatever the network answers, a cycle ends with
an outcome and publishes exactly one status, after everything else.  With success this is the table
of all measurements, read in turn at the nearest station, and then that the thing works; without it,
only that the thing does not work. -/
theorem runCycle_announces_all_or_none (service : Service) (registry : Registry)
    (settings : WeatherSettings) (p : ReferencePoint) (s : Session)
    (hregistry : registry.HasTextChannels) :
    ∃ outcome after, s.runCycle service registry settings p = (outcome, after) ∧
      ∃ (values : ChannelValues) (update : StatusUpdate),
        after.journal.announcements = s.journal.announcements ++
          (values.map fun row => .value row.1 row.2) ++ [.status update] ∧
        match outcome with
        | .success table station =>
          values = table ∧ update = .online ∧
            Cycle.Reads service registry settings p s.replies table station
        | _ => values = [] ∧ update.status = .offline := by
  have hannounced := announcements_runCycle service registry settings p s
  have hprogram := runCycle_fst service registry settings p s
  obtain ⟨outcome, after, hrun⟩ : ∃ outcome after,
      s.runCycle service registry settings p = (outcome, after) := ⟨_, _, rfl⟩
  rw [hrun] at hannounced hprogram
  refine ⟨outcome, after, hrun, outcome.values, outcome.update, ?_, ?_⟩
  · rw [hannounced, Outcome.announcements, List.append_assoc]
  · cases outcome with
    | success table station => exact ⟨rfl, rfl, Cycle.program_success hregistry hprogram.symm⟩
    | _ => exact ⟨rfl, rfl⟩

/-- Two kinds on one channel, of which only the first one has a unit. -/
def windRegistry : Registry :=
  (Registry.registered [] "GUST" (.obj [("name", .str "Gust"), ("channel", .str "wind"),
    ("datastream_filter", .str "gust"), ("unit", .str "m/s")])).registered "MEAN"
    (.obj [("name", .str "Mean"), ("channel", .str "wind"), ("datastream_filter", .str "mean")])

theorem windRegistry_hasTextChannels : windRegistry.HasTextChannels :=
  Registry.hasTextChannels_of_map ["wind", "wind"] rfl

/-- The replies to a cycle: the list of one location, and then two observations. -/
def windReplies : List Reply :=
  [.response ⟨200,
    "\x7b\"value\":[\x7b\"@iot.id\":1,\"location\":\x7b\"coordinates\":[7,51]\x7d\x7d]\x7d", "OK"⟩,
   .response ⟨200, "\x7b\"value\":[\x7b\"Observations\":[\x7b\"result\":8.5\x7d]\x7d]\x7d", "OK"⟩,
   .response ⟨200, "\x7b\"value\":[\x7b\"Observations\":[\x7b\"result\":3\x7d]\x7d]\x7d", "OK"⟩]

/-- Of two measurements on one channel the last one is published, with its own unit or without one,
and the status follows.  If the list of locations is not found, there is only a status. -/
theorem runCycle_announces_last_on_channel :
    windRegistry.HasTextChannels ∧
    ((ofReplies windReplies).runCycle (.connect { baseUrl := "/v1" }) windRegistry
        { measurements := ["GUST", "MEAN"] } ⟨51.2, 7.1⟩).2.journal.announcements =
      [.value (.str "wind") (.decimal 3.0), .status .online] ∧
    ((ofReplies windReplies).runCycle (.connect { baseUrl := "/v1" }) windRegistry
        { measurements := ["MEAN", "GUST"] } ⟨51.2, 7.1⟩).2.journal.announcements =
      [.value (.str "wind") (.quantity 3.0 (.str "m/s")), .status .online] ∧
    ∃ update : StatusUpdate,
      ((ofReplies [.response ⟨404, "", "Not Found"⟩]).runCycle (.connect { baseUrl := "/v1" })
        windRegistry {} ⟨51.2, 7.1⟩).2.journal.announcements = [.status update] ∧
      update.status = .offline := by
  have hregistry := windRegistry_hasTextChannels
  refine ⟨hregistry, ?_, ?_, ?_⟩
  · obtain ⟨outcome, after, hrun, values, update, hannounced, hcase⟩ :=
      runCycle_announces_all_or_none (.connect { baseUrl := "/v1" }) windRegistry
        { measurements := ["GUST", "MEAN"] } ⟨51.2, 7.1⟩ (ofReplies windReplies) hregistry
    obtain ⟨station, hstation⟩ : ∃ station,
        outcome = .success [(.str "wind", .decimal 3.0)] station :=
      ⟨_, congrArg Prod.fst hrun.symm⟩
    subst hstation
    rw [hrun, hannounced, hcase.1, hcase.2.1]
    rfl
  · obtain ⟨outcome, after, hrun, values, update, hannounced, hcase⟩ :=
      runCycle_announces_all_or_none (.connect { baseUrl := "/v1" }) windRegistry
        { measurements := ["MEAN", "GUST"] } ⟨51.2, 7.1⟩ (ofReplies windReplies) hregistry
    obtain ⟨station, hstation⟩ : ∃ station,
        outcome = .success [(.str "wind", .quantity 3.0 (.str "m/s"))] station :=
      ⟨_, congrArg Prod.fst hrun.symm⟩
    subst hstation
    rw [hrun, hannounced, hcase.1, hcase.2.1]
    rfl
  · obtain ⟨outcome, after, hrun, values, update, hannounced, hcase⟩ :=
      runCycle_announces_all_or_none (.connect { baseUrl := "/v1" }) windRegistry {} ⟨51.2, 7.1⟩
        (ofReplies [.response ⟨404, "", "Not Found"⟩]) hregistry
    have houtcome : outcome = .httpFailure 404 .resolve := congrArg Prod.fst hrun.symm
    subst houtcome
    refine ⟨update, ?_, hcase.2⟩
    rw [hrun, hannounced, hcase.1]
    rfl

end Session

end StationWatch
