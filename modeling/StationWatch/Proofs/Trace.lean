import StationWatch.Proofs.Asking
import StationWatch.Proofs.Nearest
import StationWatch.Proofs.Publication

/-!
# The requests of a cycle

A cycle first asks for the locations of the stations and then, if a station was found, for the
measurements in the order of the settings, until one of them fails.  Which query paths are asked is
said here without the attempts: asking those paths one after another sends the same requests.

## Main definitions

* `Cycle.askedPath`, `Cycle.askedPaths` — the query paths that measurements need.
* `Cycle.Unread`, `Cycle.Fails` — the measurements that end a cycle.
* `Cycle.Course` — how far the readings of a cycle get.
* `Cycle.Asks` — the query paths of a cycle.

## Main results

* `Cycle.unread_iff` — a measurement cannot be read if and only if its reading meets a fault.
* `Cycle.exchange_readAll` — the readings ask the paths of the names that they reach.
* `Session.runCycle_requests` — the requests of a cycle.

## References

`SPEC_FULL.md`, section 4.3, on the requests of a cycle.
-/

namespace StationWatch

namespace Cycle

section

variable (service : Service) (registry : Registry) (settings : WeatherSettings)
variable (station : RankedStation)

/-- The query path that a measurement needs: none if it is unknown, if a fixed value stands in for
it, or if there is no query for it. -/
def askedPath (name : RawText) : Option RawText :=
  match registry.get? name with
  | none => none
  | some m =>
    match m.placeholder with
    | .null => (pathFor settings m station).toOption
    | _ => none

/-- The query paths that measurements need, in their order. -/
def askedPaths (names : List RawText) : List RawText :=
  names.filterMap (askedPath registry settings station)

/-- A measurement that cannot be read with the replies that are left. -/
inductive Unread (replies : List Reply) (name : RawText) : Prop
  /-- Its name is not registered. -/
  | unknown (hm : registry.get? name = none)
  /-- The value that stands in for it is no number. -/
  | placeholder {m : Measurement} {fault : NumberFault} (hm : registry.get? name = some m)
      (hfixed : m.placeholder ≠ .null) (hfault : m.placeholder.toReal = .error fault)
  /-- There is no query for it. -/
  | query {m : Measurement} {fault : Query.Fault} (hm : registry.get? name = some m)
      (hfixed : m.placeholder = .null) (hfault : pathFor settings m station = .error fault)
  /-- Its query does not yield an observation. -/
  | fetch {m : Measurement} {path : RawText} {fault : Fault} (hm : registry.get? name = some m)
      (hfixed : m.placeholder = .null) (hpath : pathFor settings m station = .ok path)
      (hfault : ((service.latest path name).exchange replies).result = .error fault)

/-- A measurement that ends a cycle: it cannot be read, or its channel cannot be the key of a
table. -/
def Fails (replies : List Reply) (name : RawText) : Prop :=
  Unread service registry settings station replies name ∨
    ∃ m, registry.get? name = some m ∧ m.channel.isKey = false

/-- How far readings in turn get: those of the names reached are tried, each with the replies that
the ones before have left, and those of the later names are not. -/
structure Course (replies : List Reply) (reached later : List RawText) : Prop where
  /-- What another one follows has not failed. -/
  goes_on : ∀ before name after, reached = before ++ name :: after → after ≠ [] →
    ¬ Fails service registry settings station
      (service.repliesAfter (askedPaths registry settings station before) replies) name
  /-- If not all are reached, the last one reached has failed. -/
  stops : later ≠ [] → ∃ before name, reached = before ++ [name] ∧
    Fails service registry settings station
      (service.repliesAfter (askedPaths registry settings station before) replies) name

end

variable {service : Service} {registry : Registry} {settings : WeatherSettings}
variable {station : RankedStation} {replies : List Reply} {name : RawText} {m : Measurement}

/-! ### One reading -/

theorem read_of_placeholder (hfixed : m.placeholder ≠ .null) :
    read service settings name m station = pure (m.placeholder.toReal.mapError .number) := by
  unfold read
  split
  · exact absurd ‹_› hfixed
  · rfl

theorem read_of_no_path (hfixed : m.placeholder = .null) {fault : Query.Fault}
    (hpath : pathFor settings m station = .error fault) :
    read service settings name m station = pure (.error (.query fault)) := by
  unfold read
  rw [hfixed, hpath]

/-- A measurement that needs a query asks its path, and takes the value of the observation. -/
theorem exchange_read_of_path (hfixed : m.placeholder = .null) {path : RawText}
    (hpath : pathFor settings m station = .ok path) :
    (read service settings name m station).exchange replies =
      { (service.latest path name).exchange replies with
        result := (((service.latest path name).exchange replies).result).map (·.value) } := by
  unfold read
  rw [hfixed, hpath]
  simp only [Dialogue.exchange_bind]
  cases ((service.latest path name).exchange replies).result with
  | ok observation => simp [Except.map]
  | error fault => simp [Except.map]

theorem askedPath_of_get? (hm : registry.get? name = some m) :
    askedPath registry settings station name =
      match m.placeholder with
      | .null => (pathFor settings m station).toOption
      | _ => none := by
  rw [askedPath, hm]

theorem askedPath_of_placeholder (hm : registry.get? name = some m)
    (hfixed : m.placeholder ≠ .null) : askedPath registry settings station name = none := by
  rw [askedPath_of_get? hm]
  split
  · exact absurd ‹_› hfixed
  · rfl

section

variable (service settings station replies)

/-- A reading asks the path that the measurement needs, if any. -/
theorem exchange_read (hm : registry.get? name = some m) :
    ((read service settings name m station).exchange replies).requests =
        ((service.askAll (askedPath registry settings station name).toList).exchange
          replies).requests ∧
      ((read service settings name m station).exchange replies).rest =
        service.repliesAfter (askedPath registry settings station name).toList replies := by
  by_cases hfixed : m.placeholder = .null
  · rw [askedPath_of_get? hm, hfixed]
    cases hpath : pathFor settings m station with
    | error fault =>
      rw [read_of_no_path hfixed hpath]
      exact ⟨rfl, rfl⟩
    | ok path =>
      rw [exchange_read_of_path hfixed hpath, Service.exchange_latest]
      simp [Except.toOption, Service.askAll, Service.repliesAfter]
  · rw [read_of_placeholder hfixed, askedPath_of_placeholder hm hfixed]
    exact ⟨rfl, rfl⟩

/-- A registered measurement cannot be read if and only if its reading meets a fault. -/
theorem unread_iff (hm : registry.get? name = some m) :
    Unread service registry settings station replies name ↔
      ∃ fault, ((read service settings name m station).exchange replies).result =
        .error fault := by
  constructor
  · intro h
    cases h with
    | unknown hnone =>
      rw [hm] at hnone
      cases hnone
    | placeholder hm' hfixed hfault =>
      cases hm.symm.trans hm'
      exact ⟨_, by rw [read_of_placeholder hfixed, hfault]; rfl⟩
    | query hm' hfixed hfault =>
      cases hm.symm.trans hm'
      exact ⟨_, by rw [read_of_no_path hfixed hfault]; rfl⟩
    | fetch hm' hfixed hpath hfault =>
      cases hm.symm.trans hm'
      exact ⟨_, by rw [exchange_read_of_path hfixed hpath, hfault]; rfl⟩
  · rintro ⟨fault, hfault⟩
    by_cases hfixed : m.placeholder = .null
    · cases hpath : pathFor settings m station with
      | error fault => exact .query hm hfixed hpath
      | ok path =>
        rw [exchange_read_of_path hfixed hpath] at hfault
        cases hlatest : ((service.latest path name).exchange replies).result with
        | error fault => exact .fetch hm hfixed hpath hlatest
        | ok observation =>
          rw [hlatest] at hfault
          cases hfault
    · rw [read_of_placeholder hfixed] at hfault
      cases hnumber : m.placeholder.toReal with
      | error fault => exact .placeholder hm hfixed hnumber
      | ok x =>
        rw [hnumber] at hfault
        cases hfault

/-- A registered measurement ends a cycle if its reading meets a fault or its channel is no key. -/
theorem fails_iff (hm : registry.get? name = some m) :
    Fails service registry settings station replies name ↔
      (∃ fault, ((read service settings name m station).exchange replies).result =
        .error fault) ∨ m.channel.isKey = false := by
  have hchannel : (∃ m', registry.get? name = some m' ∧ m'.channel.isKey = false) ↔
      m.channel.isKey = false := by
    constructor
    · rintro ⟨m', hm', hkey⟩
      cases hm.symm.trans hm'
      exact hkey
    · intro hkey
      exact ⟨m, hm, hkey⟩
  rw [Fails, unread_iff service settings station replies hm, hchannel]

end

/-! ### The readings in turn -/

theorem Course.nil : Course service registry settings station replies [] [] where
  goes_on := by simp
  stops := by simp

/-- A measurement that fails is the last one. -/
theorem Course.single (later : List RawText)
    (h : Fails service registry settings station replies name) :
    Course service registry settings station replies [name] later where
  goes_on := by
    intro before other after hsplit hafter
    have hlength := congrArg List.length hsplit
    have := List.length_pos_of_ne_nil hafter
    simp only [List.length_cons, List.length_nil, List.length_append] at hlength
    omega
  stops := fun _ => ⟨[], name, rfl, h⟩

theorem askedPaths_cons (names : List RawText) :
    askedPaths registry settings station (name :: names) =
      (askedPath registry settings station name).toList ++
        askedPaths registry settings station names := by
  rw [askedPaths, List.filterMap_cons]
  cases askedPath registry settings station name <;> rfl

theorem askedPaths_singleton :
    askedPaths registry settings station [name] =
      (askedPath registry settings station name).toList := by
  rw [askedPaths_cons]
  exact List.append_nil _

/-- After a measurement that does not fail the course goes on with the replies that it leaves. -/
theorem Course.cons {reached later : List RawText}
    (h : ¬ Fails service registry settings station replies name)
    (hrest : Course service registry settings station
      (service.repliesAfter (askedPath registry settings station name).toList replies)
      reached later) :
    Course service registry settings station replies (name :: reached) later where
  goes_on := by
    intro before other after hsplit hafter
    cases before with
    | nil =>
      obtain ⟨rfl, -⟩ := List.cons.inj hsplit
      exact h
    | cons first before =>
      obtain ⟨rfl, hreached⟩ := List.cons.inj hsplit
      rw [askedPaths_cons, Service.repliesAfter_append]
      exact hrest.goes_on before other after hreached hafter
  stops := by
    intro hlater
    obtain ⟨before, last, hsplit, hlast⟩ := hrest.stops hlater
    refine ⟨name :: before, last, by rw [hsplit, List.cons_append], ?_⟩
    rw [askedPaths_cons, Service.repliesAfter_append]
    exact hlast

/-- The readings ask the paths of the names that they reach. -/
theorem exchange_readAll (names : List RawText) (values : ChannelValues) (replies : List Reply) :
    ∃ reached later, names = reached ++ later ∧
      Course service registry settings station replies reached later ∧
      ((readAll service registry settings station names values).exchange replies).requests =
        ((service.askAll (askedPaths registry settings station reached)).exchange
          replies).requests := by
  -- The values so far do not matter, but the replies change from one reading to the next.
  induction names generalizing values replies with
  | nil => exact ⟨[], [], rfl, .nil, rfl⟩
  | cons name names ih =>
    rw [readAll]
    cases hm : registry.get? name with
    | none =>
      refine ⟨[name], names, rfl, .single names (.inl (.unknown hm)), ?_⟩
      have hpath : askedPath registry settings station name = none := by rw [askedPath, hm]
      rw [askedPaths_singleton, hpath]
      rfl
    | some m =>
      obtain ⟨hrequests, hleft⟩ := exchange_read service settings station replies hm
      have hfails := fails_iff service settings station replies hm
      simp only [Dialogue.exchange_bind]
      cases hresult : ((read service settings name m station).exchange replies).result with
      | error fault =>
        -- The reading fails; whatever the fault is, nothing else is asked.
        refine ⟨[name], names, rfl, .single names (hfails.2 (.inl ⟨fault, hresult⟩)), ?_⟩
        rw [askedPaths_singleton, hrequests]
        cases fault <;> simp
      | ok x =>
        cases hkey : m.channel.isKey with
        | false =>
          -- The value is read, but there is no place for it.
          refine ⟨[name], names, rfl, .single names (hfails.2 (.inr hkey)), ?_⟩
          rw [askedPaths_singleton, hrequests]
          simp
        | true =>
          -- The value has a place, and the other names find the replies that this one leaves.
          have hgood : ¬ Fails service registry settings station replies name := by
            rw [hfails, hresult, hkey]
            simp
          obtain ⟨reached, later, hnames, hcourse, hasked⟩ :=
            ih (putValue m.channel (.ofUnit x m.unit) values)
              ((read service settings name m station).exchange replies).rest
          rw [hleft] at hcourse hasked
          refine ⟨name :: reached, later, by rw [hnames, List.cons_append],
            hcourse.cons hgood, ?_⟩
          rw [askedPaths_cons, Service.requests_askAll_append, hrequests, hleft]
          simp [hasked]

/-- Readings that succeed succeed at the station that was asked. -/
theorem readAll_station {names : List RawText} {values table : ChannelValues}
    {found : RankedStation}
    (h : ((readAll service registry settings station names values).exchange replies).result =
      .ok (.success table found)) : found = station := by
  induction names generalizing values replies with
  | nil =>
    cases h
    rfl
  | cons name names ih =>
    rw [readAll] at h
    cases hm : registry.get? name with
    | none =>
      rw [hm] at h
      cases h
    | some m =>
      simp only [hm, Dialogue.exchange_bind] at h
      cases hx : ((read service settings name m station).exchange replies).result with
      | error fault => cases fault <;> simp [hx] at h
      | ok x =>
        cases hkey : m.channel.isKey with
        | false => simp [hx, hkey] at h
        | true =>
          simp only [hx, hkey, if_true] at h
          exact ih h

/-! ### The search -/

theorem exists_sorted_of_rank {p : ReferencePoint} {stations : List Station}
    {index : List RankedStation} (h : rank p stations = .ok index) :
    ∃ ranked, index = sortByDistance ranked := by
  unfold rank at h
  split at h
  · cases h
  · split at h
    · exact ⟨_, (Except.ok.inj h).symm⟩
    · cases h

theorem exists_sorted_of_stationsOfAnswer {p : ReferencePoint} {path : RawText}
    {answer : Except NetworkFailure Response} {index : List RankedStation}
    (h : service.stationsOfAnswer p path answer = .ok index) :
    ∃ ranked, index = sortByDistance ranked := by
  unfold Service.stationsOfAnswer at h
  split at h
  · cases h
  · split at h
    · cases h
    · rename_i hrank
      unfold Service.rankPayload at hrank
      split at hrank
      · obtain ⟨ranked, hranked⟩ := exists_sorted_of_rank hrank
        exact ⟨ranked, (Except.ok.inj h).symm.trans hranked⟩
      · cases hrank

/-- The station that is found is the nearest of the ones in the answer. -/
theorem exists_index_of_foundIn {p : ReferencePoint} {answer : Except NetworkFailure Response}
    {count : Nat} (h : foundIn service p answer = .ok (station, count)) :
    ∃ index, service.stationsOfAnswer p Query.onlineLocations answer = .ok index ∧
      station ∈ index ∧ ∀ other ∈ index, station.notFarther other = true := by
  unfold foundIn at h
  split at h
  · cases h
  · rename_i index hindex
    cases index with
    | nil => cases h
    | cons first rest =>
      cases h
      obtain ⟨ranked, hranked⟩ := exists_sorted_of_stationsOfAnswer hindex
      have hsorted := pairwise_sortByDistance ranked
      rw [← hranked, List.pairwise_cons] at hsorted
      refine ⟨station :: rest, hindex, List.mem_cons_self, ?_⟩
      intro other hother
      rcases List.mem_cons.1 hother with rfl | hother
      · exact other.notFarther_refl
      · exact hsorted.1 other hother

/-- A measurement needs a query path if nothing stands in for it and there is a query for it. -/
theorem askedPath_eq_some_iff {path : RawText} :
    askedPath registry settings station name = some path ↔
      ∃ m, registry.get? name = some m ∧ m.placeholder = .null ∧
        pathFor settings m station = .ok path := by
  cases hm : registry.get? name with
  | none => simp [askedPath, hm]
  | some m =>
    by_cases hfixed : m.placeholder = .null
    · rw [askedPath_of_get? hm, hfixed]
      cases hpath : pathFor settings m station <;> simp [Except.toOption, hfixed, hpath]
    · simp [askedPath_of_placeholder hm hfixed, hfixed]

theorem exists_clause_of_pathFor {path : RawText} (h : pathFor settings m station = .ok path) :
    ∃ literal c, clause settings station = .ok c ∧ Query.latestPath literal c = .ok path := by
  unfold pathFor at h
  split at h
  · rename_i c hclause
    obtain ⟨literal, -, hquery⟩ := Query.latestObservation_eq_ok_iff.1 h
    exact ⟨literal, c, hclause, hquery⟩
  · cases h

/-- The query for a measurement selects the data streams of the station to be asked: by the
identifier of the nearest one, or by the name in the settings. -/
theorem exists_clause_of_askedPath {path : RawText}
    (h : askedPath registry settings station name = some path) :
    ∃ literal c, Query.latestPath literal c = .ok path ∧
      if settings.useNearest then Query.idClause station.siteCode = .ok c
      else c = Query.nameClause settings.stationName := by
  obtain ⟨m, -, -, hpath⟩ := askedPath_eq_some_iff.1 h
  obtain ⟨literal, c, hclause, hquery⟩ := exists_clause_of_pathFor hpath
  refine ⟨literal, c, hquery, ?_⟩
  unfold clause at hclause
  split at hclause
  · rename_i hnearest
    rwa [if_pos hnearest]
  · rename_i hnamed
    rw [if_neg hnamed]
    exact (Except.ok.inj hclause).symm

/-- The outcome of a cycle whose readings come to a result. -/
def settle : Except Fault Outcome → Outcome
  | .ok outcome => outcome
  | .error fault => .parseFailure (.fault fault) .fetch

section

variable (service registry settings)

theorem requests_askAll_onlineLocations :
    ((service.askAll [Query.onlineLocations]).exchange replies).requests =
      ((service.send (service.address Query.onlineLocations)).exchange replies).requests := by
  rw [Service.requests_askAll_cons]
  exact List.append_nil _

/-- A cycle that finds a station reads the measurements with the replies that are left. -/
theorem exchange_program_of_found {p : ReferencePoint} {count : Nat}
    (h : foundIn service p (locationsAnswer service replies) = .ok (station, count)) :
    let reading := (readAll service registry settings station settings.measurements []).exchange
      (service.repliesAfter [Query.onlineLocations] replies)
    (program service registry settings p).exchange replies =
      { result := settle reading.result
        requests := ((service.askAll [Query.onlineLocations]).exchange replies).requests ++
          reading.requests
        rest := reading.rest } := by
  have hsearch := exchange_findStation service p replies
  rw [h] at hsearch
  have hsent : service.repliesAfter [Query.onlineLocations] replies =
      ((service.send (service.address Query.onlineLocations)).exchange replies).rest := by
    rw [Service.repliesAfter_cons, Service.repliesAfter_nil]
  rw [hsent, requests_askAll_onlineLocations]
  simp only [program, execute, Dialogue.exchange_bind, Dialogue.exchange_enter, hsearch,
    noteStation, Dialogue.exchange_log]
  cases ((readAll service registry settings station settings.measurements []).exchange
      ((service.send (service.address Query.onlineLocations)).exchange replies).rest).result with
  | error fault => simp [settle]
  | ok outcome => simp [settle]

/-- The requests of a cycle that finds a station, and the station of its success. -/
theorem exchange_program_of_ok {p : ReferencePoint} {count : Nat}
    (h : foundIn service p (locationsAnswer service replies) = .ok (station, count)) :
    ((program service registry settings p).exchange replies).requests =
        ((service.askAll [Query.onlineLocations]).exchange replies).requests ++
          ((readAll service registry settings station settings.measurements []).exchange
            (service.repliesAfter [Query.onlineLocations] replies)).requests ∧
      ∀ table found, ((program service registry settings p).exchange replies).result =
        .success table found → found = station := by
  rw [exchange_program_of_found service registry settings h]
  refine ⟨rfl, fun table found hsuccess => ?_⟩
  cases hread : ((readAll service registry settings station settings.measurements []).exchange
      (service.repliesAfter [Query.onlineLocations] replies)).result with
  | error fault => simp [hread, settle] at hsuccess
  | ok outcome =>
    simp only [hread, settle] at hsuccess
    rw [hsuccess] at hread
    exact readAll_station hread

end

section

variable (service registry settings) (p : ReferencePoint)

/-- The query paths of a cycle: that of the locations alone if no station is found in the answer to
it, and otherwise also those of the measurements that are reached. -/
def Asks (replies : List Reply) (paths : List RawText) : Prop :=
  match foundIn service p (locationsAnswer service replies) with
  | .error _ => paths = [Query.onlineLocations]
  | .ok (station, _) =>
    ∃ reached later, settings.measurements = reached ++ later ∧
      Course service registry settings station
        (service.repliesAfter [Query.onlineLocations] replies) reached later ∧
      paths = Query.onlineLocations :: askedPaths registry settings station reached

theorem exists_asks (replies : List Reply) :
    ∃ paths, Asks service registry settings p replies paths ∧
      ((program service registry settings p).exchange replies).requests =
        ((service.askAll paths).exchange replies).requests := by
  unfold Asks
  cases hfound : foundIn service p (locationsAnswer service replies) with
  | error fault =>
    have hsearch := exchange_findStation service p replies
    rw [hfound] at hsearch
    have hprogram := exchange_program_of_error service registry settings p
      (congrArg Exchange.result hsearch)
    exact ⟨_, rfl, by rw [hprogram, hsearch, requests_askAll_onlineLocations]⟩
  | ok found =>
    obtain ⟨station, count⟩ := found
    obtain ⟨hprogram, -⟩ := exchange_program_of_ok service registry settings hfound
    obtain ⟨reached, later, hnames, hcourse, hread⟩ :=
      exchange_readAll settings.measurements []
        (service.repliesAfter [Query.onlineLocations] replies)
    refine ⟨_, ⟨reached, later, hnames, hcourse, rfl⟩, ?_⟩
    rw [hprogram, hread, ← Service.requests_askAll_append]
    rfl

end

end Cycle

namespace Session

/-- **The requests of a cycle.**  The first query path asked is that of the locations.  If no
station is found in the answer, it is the only one.  Otherwise the measurements follow in the order
of the settings, each with the path that it needs, if any, up to the first one that fails.  Every
request is sent to the address without its last slashes, followed by the path, with the time limit
of the settings, and nothing else is sent.  The station is the nearest one in the answer, it is the
one of a success, and all paths of measurements select its identifier or the name in the
settings. -/
theorem runCycle_requests (client : ServiceSettings) (credentials : Headers)
    (platform : Platform) (registry : Registry) (settings : WeatherSettings) (p : ReferencePoint)
    (s : Session) :
    let c := Service.connect client credentials platform
    ∃ outcome after, s.runCycle c registry settings p = (outcome, after) ∧
      ∃ (root : RawText) (slashes : Nat) (paths : List RawText) (counts : List Nat),
        client.baseUrl = root ++ (String.ofList (.replicate slashes '/') : RawText) ∧
        (∀ front : RawText, root ≠ front ++ ("/" : RawText)) ∧
        Cycle.Asks c registry settings p s.replies paths ∧
        counts.length = paths.length ∧
        (∀ n ∈ counts, 1 ≤ n ∧ (n : Int) ≤ max 1 client.attempts) ∧
        after.journal.requests = s.journal.requests ++
          (paths.zip counts).flatMap
            (fun sent => List.replicate sent.2 ⟨root ++ sent.1, client.timeout⟩) ∧
        ∀ station count,
          Cycle.foundIn c p (Cycle.locationsAnswer c s.replies) = .ok (station, count) →
          (∃ index, c.stationsOfAnswer p Query.onlineLocations
              (Cycle.locationsAnswer c s.replies) = .ok index ∧
            station ∈ index ∧ ∀ other ∈ index, station.notFarther other = true) ∧
          (∀ path ∈ paths.tail, ∃ literal clause, Query.latestPath literal clause = .ok path ∧
            if settings.useNearest then Query.idClause station.siteCode = .ok clause
            else clause = Query.nameClause settings.stationName) ∧
          ∀ table found, outcome = .success table found → found = station := by
  intro c
  obtain ⟨slashes, hbase, hroot⟩ := trimSlashes_spec client.baseUrl
  obtain ⟨paths, hasks, hprogram⟩ := Cycle.exists_asks c registry settings p s.replies
  obtain ⟨counts, hlength, hcounts, hsent⟩ := c.requests_askAll paths s.replies
  refine ⟨(s.runCycle c registry settings p).1, (s.runCycle c registry settings p).2,
    Prod.mk.eta.symm, trimSlashes client.baseUrl, slashes, paths, counts, hbase, hroot, hasks,
    hlength, ?_, ?_, ?_⟩
  · intro n hn
    obtain ⟨hleast, hmost⟩ := hcounts n hn
    have hattempts : c.attempts = max 1 client.attempts := rfl
    omega
  · rw [requests_runCycle, hprogram, hsent]
    rfl
  · intro station count hfound
    refine ⟨Cycle.exists_index_of_foundIn hfound, ?_, ?_⟩
    · intro path hpath
      rw [Cycle.Asks, hfound] at hasks
      obtain ⟨reached, later, -, -, rfl⟩ := hasks
      obtain ⟨name, -, hname⟩ := List.mem_filterMap.1 hpath
      exact Cycle.exists_clause_of_askedPath hname
    · intro table found hsuccess
      rw [runCycle_fst] at hsuccess
      exact (Cycle.exchange_program_of_ok c registry settings hfound).2 table found hsuccess

/-! ### A channel that is a list -/

/-- The registry with a kind whose channel is a list. -/
def listedRegistry : Registry :=
  Registry.registered .builtIn "ODD"
    (.obj [("name", .str "Odd"), ("channel", .arr [.str "odd"]), ("datastream_filter", .str "odd")])

/-- Settings that name this kind before the temperature. -/
def listedSettings : WeatherSettings := { measurements := ["ODD", "TEMPERATURE"] }

/-- A list of one location. -/
def locationBody : String :=
  "\x7b\"value\":[\x7b\"@iot.id\":1,\"location\":\x7b\"coordinates\":[7,51]\x7d\x7d]\x7d"

/-- A list of one data stream with one observation. -/
def observationBody : String :=
  "\x7b\"value\":[\x7b\"Observations\":[\x7b\"result\":1\x7d]\x7d]\x7d"

/-- The replies: the location and an observation. -/
def listedReplies : List Reply :=
  [.response ⟨200, locationBody, "OK"⟩, .response ⟨200, observationBody, "OK"⟩]

/-- A cycle that reads a value for a channel that is a list stops there, although nothing else is
wrong with that measurement and another one follows. -/
theorem runCycle_stops_at_list_channel :
    ∃ station count listed temperature,
      Cycle.foundIn (.connect { baseUrl := "/v1" }) ⟨51.2, 7.1⟩
          (Cycle.locationsAnswer (.connect { baseUrl := "/v1" }) listedReplies) =
        .ok (station, count) ∧
      listedSettings.measurements = ["ODD", "TEMPERATURE"] ∧
      Cycle.askedPath listedRegistry listedSettings station "ODD" = some listed ∧
      Cycle.askedPath listedRegistry listedSettings station "TEMPERATURE" = some temperature ∧
      ¬ Cycle.Unread (.connect { baseUrl := "/v1" }) listedRegistry listedSettings station
        ((Service.connect { baseUrl := "/v1" }).repliesAfter [Query.onlineLocations]
          listedReplies) "ODD" ∧
      ((ofReplies listedReplies).runCycle (.connect { baseUrl := "/v1" }) listedRegistry
          listedSettings ⟨51.2, 7.1⟩).2.journal.requests =
        [⟨("/v1" : RawText) ++ Query.onlineLocations, 10.0⟩,
          ⟨("/v1" : RawText) ++ listed, 10.0⟩] := by
  refine ⟨_, _, _, _, rfl, rfl, rfl, rfl, ?_, ?_⟩
  · rw [Cycle.unread_iff _ _ _ _ rfl]
    rintro ⟨fault, hfault⟩
    cases hfault
  · rfl

end Session

end StationWatch
