import Mathlib.Data.List.Sort
import StationWatch.Proofs.Doubles
import StationWatch.Proofs.Resolution

/-!
# The nearest station

The stations of a response are put in order of their distance from the watched place.  No station
is lost or doubled, each keeps its own distance, and stations at one distance keep the order of the
response.  So the nearest station is the first one in the response that no other is nearer than.

## Main definitions

* `RankedStation.equidistant` — stations at one distance.
* `Measured` — stations with the distances of their own places.
* `StablySorted` — stations in order of distance, equal distances in their given order.
* `Foremost` — the first station that no other is nearer than.

## Main results

* `stablySorted_sortByDistance` — the order of the index.
* `StablySorted.foremost` — what stands first in it.
* `stationsNear_foremost` — the index of a list of locations and its nearest station.

## References

`SPEC_FULL.md`, sections 3 and 4.1, on the order of the stations.
-/

namespace StationWatch

namespace RankedStation

theorem notFarther_total (a b : RankedStation) : a.notFarther b = true ∨ b.notFarther a = true :=
  Doubles.notAfter_total a.distance b.distance

theorem notFarther_trans {a b c : RankedStation} (hab : a.notFarther b = true)
    (hbc : b.notFarther c = true) : a.notFarther c = true :=
  Doubles.notAfter_trans hab hbc

theorem notFarther_refl (a : RankedStation) : a.notFarther a = true :=
  Doubles.notAfter_refl a.distance

/-- Whether two stations are at one distance. -/
def equidistant (a b : RankedStation) : Bool := a.notFarther b && b.notFarther a

theorem equidistant_iff {a b : RankedStation} :
    a.equidistant b = true ↔ a.notFarther b = true ∧ b.notFarther a = true := by
  simp [equidistant]

theorem equidistant_of_eq {a b : RankedStation} (h : a.distance = b.distance) :
    a.equidistant b = true := by
  have hab : a.notFarther b = b.notFarther b := by rw [notFarther, notFarther, h]
  have hba : b.notFarther a = a.notFarther a := by rw [notFarther, notFarther, h]
  rw [equidistant_iff, hab, hba]
  exact ⟨b.notFarther_refl, a.notFarther_refl⟩

end RankedStation

/-! ### The order -/

/-- Stations in order of distance: the same ones as given, none farther before one that is nearer,
and those at one distance in their given order. -/
structure StablySorted (given sorted : List RankedStation) : Prop where
  perm : sorted.Perm given
  ascending : sorted.Pairwise fun a b => a.notFarther b = true
  stable : ∀ a : RankedStation, sorted.filter a.equidistant = given.filter a.equidistant

/-- A station that no other is nearer than, and the first one of this kind: all before it are
farther. -/
def Foremost (stations : List RankedStation) (first : RankedStation) : Prop :=
  ∃ before after, stations = before ++ first :: after ∧
    (∀ other ∈ before, other.notFarther first = false) ∧
    ∀ other ∈ stations, first.notFarther other = true

theorem insertByDistance_eq (a : RankedStation) (stations : List RankedStation) :
    insertByDistance a stations =
      stations.orderedInsert (fun a b => a.notFarther b = true) a := by
  induction stations with
  | nil => rfl
  | cons b rest ih => rw [insertByDistance, List.orderedInsert_cons, ih]

theorem sortByDistance_eq (stations : List RankedStation) :
    sortByDistance stations = stations.insertionSort fun a b => a.notFarther b = true := by
  induction stations with
  | nil => rfl
  | cons a rest ih => rw [sortByDistance, insertByDistance_eq, ih, List.insertionSort_cons]

theorem perm_sortByDistance (stations : List RankedStation) :
    (sortByDistance stations).Perm stations := by
  rw [sortByDistance_eq]
  exact List.perm_insertionSort _ _

theorem pairwise_sortByDistance (stations : List RankedStation) :
    (sortByDistance stations).Pairwise fun a b => a.notFarther b = true := by
  have htotal : Std.Total fun a b : RankedStation => a.notFarther b = true :=
    ⟨RankedStation.notFarther_total⟩
  have htrans : IsTrans RankedStation fun a b => a.notFarther b = true :=
    ⟨fun _ _ _ => RankedStation.notFarther_trans⟩
  rw [sortByDistance_eq]
  exact List.pairwise_insertionSort _ _

/-- Stations at one distance keep their order. -/
theorem filter_sortByDistance (stations : List RankedStation) (a : RankedStation) :
    (sortByDistance stations).filter a.equidistant = stations.filter a.equidistant := by
  -- The stations at this distance are in order as they are given, so they are not rearranged.
  have hgiven : (stations.filter a.equidistant).Pairwise fun b c => b.notFarther c = true := by
    refine List.pairwise_of_forall_mem_list fun b hb c hc => ?_
    have hb' := RankedStation.equidistant_iff.1 (List.mem_filter.1 hb).2
    have hc' := RankedStation.equidistant_iff.1 (List.mem_filter.1 hc).2
    exact RankedStation.notFarther_trans hb'.2 hc'.1
  have hsublist : (stations.filter a.equidistant).Sublist (sortByDistance stations) := by
    rw [sortByDistance_eq]
    exact List.sublist_insertionSort hgiven List.filter_sublist
  have hfiltered := hsublist.filter a.equidistant
  simp only [List.filter_filter, Bool.and_self] at hfiltered
  have hlength := ((perm_sortByDistance stations).filter a.equidistant).length_eq
  exact (hfiltered.eq_of_length hlength.symm).symm

theorem stablySorted_sortByDistance (stations : List RankedStation) :
    StablySorted stations (sortByDistance stations) :=
  ⟨perm_sortByDistance stations, pairwise_sortByDistance stations,
    filter_sortByDistance stations⟩

/-- What stands first in order of distance. -/
theorem StablySorted.foremost {given rest : List RankedStation} {first : RankedStation}
    (h : StablySorted given (first :: rest)) : Foremost given first := by
  have hself : first.equidistant first = true :=
    RankedStation.equidistant_iff.2 ⟨first.notFarther_refl, first.notFarther_refl⟩
  have hleast : ∀ other ∈ given, first.notFarther other = true := by
    intro other hother
    rcases List.mem_cons.1 (h.perm.mem_iff.2 hother) with rfl | hrest
    · exact other.notFarther_refl
    · exact List.rel_of_pairwise_cons h.ascending hrest
  -- Among the stations at its distance it is the first one, as in the given order.
  have hstable := h.stable first
  rw [List.filter_cons_of_pos hself, eq_comm, List.filter_eq_cons_iff] at hstable
  obtain ⟨before, after, hsplit, hbefore, -, -⟩ := hstable
  refine ⟨before, after, hsplit, fun other hother => ?_, hleast⟩
  have hmem : other ∈ given := by
    rw [hsplit]
    exact List.mem_append_left _ hother
  have hnot := hbefore other hother
  rw [RankedStation.equidistant_iff, not_and, Bool.not_eq_true] at hnot
  exact hnot (hleast other hmem)

theorem eq_of_ascending {sorted sorted' : List RankedStation} (hperm : sorted.Perm sorted')
    (hsorted : sorted.Pairwise fun a b => a.notFarther b = true)
    (hsorted' : sorted'.Pairwise fun a b => a.notFarther b = true)
    (hstable : ∀ a : RankedStation, sorted.filter a.equidistant = sorted'.filter a.equidistant) :
    sorted = sorted' := by
  induction sorted generalizing sorted' with
  | nil => exact (List.nil_perm.1 hperm).symm
  | cons a rest ih =>
    cases sorted' with
    | nil => exact absurd hperm List.not_perm_cons_nil
    | cons b rest' =>
      -- Neither head is farther than the other, so both stand first among those at one distance.
      have hab : a.notFarther b = true := by
        rcases List.mem_cons.1 (hperm.mem_iff.2 List.mem_cons_self) with rfl | hmem
        · exact b.notFarther_refl
        · exact List.rel_of_pairwise_cons hsorted hmem
      have hba : b.notFarther a = true := by
        rcases List.mem_cons.1 (hperm.mem_iff.1 List.mem_cons_self) with rfl | hmem
        · exact a.notFarther_refl
        · exact List.rel_of_pairwise_cons hsorted' hmem
      obtain rfl : a = b := by
        have hheads := hstable a
        rw [List.filter_cons_of_pos
            (RankedStation.equidistant_iff.2 ⟨a.notFarther_refl, a.notFarther_refl⟩),
          List.filter_cons_of_pos (RankedStation.equidistant_iff.2 ⟨hab, hba⟩)] at hheads
        exact (List.cons.inj hheads).1
      refine congrArg (a :: ·) (ih hperm.cons_inv hsorted.of_cons hsorted'.of_cons fun c => ?_)
      have htails := hstable c
      by_cases hc : c.equidistant a = true
      · rw [List.filter_cons_of_pos hc, List.filter_cons_of_pos hc] at htails
        exact (List.cons.inj htails).2
      · rwa [List.filter_cons_of_neg hc, List.filter_cons_of_neg hc] at htails

/-- Distances and the given order leave only one way to put stations in order. -/
theorem StablySorted.eq_sortByDistance {given sorted : List RankedStation}
    (h : StablySorted given sorted) : sorted = sortByDistance given :=
  eq_of_ascending (h.perm.trans (perm_sortByDistance given).symm) h.ascending
    (pairwise_sortByDistance given) fun a => (h.stable a).trans (filter_sortByDistance given a).symm

/-! ### The distances -/

/-- Stations with the distances of their own places from a point. -/
def Measured (p : ReferencePoint) (stations : List Station) (ranked : List RankedStation) : Prop :=
  ranked.map RankedStation.toStation = stations ∧
    ∀ s ∈ ranked, greatCircle p.latitude p.longitude s.latitude s.longitude = .ok s.distance

section

variable {p : ReferencePoint} {stations : List Station}

theorem measured_of_withDistances {ranked : List RankedStation}
    (h : withDistances p stations = .ok ranked) : Measured p stations ranked := by
  induction stations generalizing ranked with
  | nil =>
    cases h
    exact ⟨rfl, by simp⟩
  | cons station rest ih =>
    rw [withDistances] at h
    cases hdistance : greatCircle p.latitude p.longitude station.latitude station.longitude with
    | error fault => simp [hdistance] at h
    | ok distance =>
      cases hrest : withDistances p rest with
      | error fault => simp [hdistance, hrest, Except.map] at h
      | ok others =>
        simp only [hdistance, hrest, Except.map, Except.ok.injEq] at h
        obtain ⟨hothers, hdistances⟩ := ih hrest
        subst h
        refine ⟨by simp [hothers], ?_⟩
        intro s hs
        rcases List.mem_cons.1 hs with rfl | hs
        · exact hdistance
        · exact hdistances s hs

/-- Stations have their distances in one way only. -/
theorem Measured.unique {ranked ranked' : List RankedStation} (h : Measured p stations ranked)
    (h' : Measured p stations ranked') : ranked = ranked' := by
  induction ranked generalizing stations ranked' with
  | nil =>
    have hnone : ranked'.map RankedStation.toStation = [] := h'.1.trans h.1.symm
    exact (List.map_eq_nil_iff.1 hnone).symm
  | cons a rest ih =>
    obtain ⟨b, rest', rfl, hstation, hrest⟩ := List.map_eq_cons_iff.1 (h'.1.trans h.1.symm)
    have hdistance := h'.2 b List.mem_cons_self
    rw [hstation, h.2 a List.mem_cons_self, Except.ok.injEq] at hdistance
    have hab : a = b := by
      obtain ⟨station, distance⟩ := a
      obtain ⟨station', distance'⟩ := b
      rw [RankedStation.mk.injEq]
      exact ⟨hstation.symm, hdistance⟩
    rw [hab, ih ⟨rfl, fun s hs => h.2 s (List.mem_cons_of_mem _ hs)⟩
      ⟨hrest, fun s hs => h'.2 s (List.mem_cons_of_mem _ hs)⟩]

/-- A distance is missing only if one of the stations has none. -/
theorem exists_of_withDistances_eq_error {fault : DomainFault}
    (h : withDistances p stations = .error fault) : ∃ station ∈ stations,
      greatCircle p.latitude p.longitude station.latitude station.longitude = .error fault := by
  induction stations with
  | nil => cases h
  | cons station rest ih =>
    rw [withDistances] at h
    cases hdistance : greatCircle p.latitude p.longitude station.latitude station.longitude with
    | error other =>
      rw [hdistance] at h
      cases h
      exact ⟨station, List.mem_cons_self, hdistance⟩
    | ok distance =>
      cases hrest : withDistances p rest with
      | ok others => simp [hdistance, hrest, Except.map] at h
      | error other =>
        rw [hdistance, hrest] at h
        cases h
        obtain ⟨found, hmem, hfound⟩ := ih hrest
        exact ⟨found, List.mem_cons_of_mem _ hmem, hfound⟩

/-- At least one station is ranked, unless a distance is missing. -/
theorem rank_of_ne_nil (hstations : stations ≠ []) :
    (∃ station ∈ stations, ∃ fault,
      greatCircle p.latitude p.longitude station.latitude station.longitude = .error fault ∧
        rank p stations = .error (.distance fault)) ∨
    ∃ ranked, Measured p stations ranked ∧ rank p stations = .ok (sortByDistance ranked) := by
  rw [rank, if_neg (by simpa using hstations)]
  cases hdistances : withDistances p stations with
  | error fault =>
    obtain ⟨station, hmem, hfault⟩ := exists_of_withDistances_eq_error hdistances
    exact .inl ⟨station, hmem, fault, hfault, rfl⟩
  | ok ranked => exact .inr ⟨ranked, measured_of_withDistances hdistances, rfl⟩

theorem sortByDistance_ne_nil {ranked : List RankedStation} (h : Measured p stations ranked)
    (hstations : stations ≠ []) : ∃ first rest, sortByDistance ranked = first :: rest := by
  refine List.exists_cons_of_ne_nil fun hnil => hstations ?_
  have hranked : ranked = [] := by
    rw [← List.nil_perm, ← hnil]
    exact perm_sortByDistance ranked
  rw [← h.1, hranked, List.map_nil]

end

namespace Service

/-- **The nearest station is the first of those at the least distance.**  From a list of locations
with at least one station all stations come back, each with the distance of its own place, none lost
or doubled, in order of distance and at one distance in the order of the response; and the nearest
station is the first one in the response that no other is nearer than.  Only if a station has no
distance there is no index. -/
theorem stationsNear_foremost (c : Service) (p : ReferencePoint) (path : RawText)
    (replies : List Reply) (payload : Json) (stations : List Station)
    (hpayload : ((c.fetch path).exchange replies).result = .ok payload)
    (hread : Station.ofPayload payload = .ok stations) (hstations : stations ≠ []) :
    (∃ station ∈ stations, ∃ fault,
      greatCircle p.latitude p.longitude station.latitude station.longitude = .error fault ∧
        ((c.stationsNear p path).exchange replies).result = .error (.distance fault)) ∨
    ∃ ranked index first, Measured p stations ranked ∧
      ((c.stationsNear p path).exchange replies).result = .ok index ∧
      StablySorted ranked index ∧ nearest index = .ok first ∧ Foremost ranked first := by
  have hanswer : c.payloadOfAnswer path
      ((c.send (c.address path)).exchange replies).result = .ok payload := by
    rw [exchange_fetch] at hpayload
    exact hpayload
  rw [exchange_stationsNear]
  simp only [stationsOfAnswer, hanswer, rankPayload, hread]
  rcases rank_of_ne_nil (p := p) hstations with
    ⟨station, hmem, fault, hfault, hrank⟩ | ⟨ranked, hmeasured, hrank⟩
  · exact .inl ⟨station, hmem, fault, hfault, by rw [hrank]; rfl⟩
  · obtain ⟨first, rest, hindex⟩ := sortByDistance_ne_nil hmeasured hstations
    have hsorted := stablySorted_sortByDistance ranked
    rw [hindex] at hrank hsorted
    exact .inr ⟨ranked, first :: rest, first, hmeasured, by rw [hrank], hsorted, rfl,
      hsorted.foremost⟩

theorem result_fetch_response {c : Service} {body : String} {payload : Json} (path : RawText)
    (reason : String) (hparse : Json.parse c.platform.nestingLimit body = .ok payload) :
    ((c.fetch path).exchange [.response ⟨200, body, reason⟩]).result = .ok payload := by
  rw [exchange_fetch, result_send_response]
  simp [payloadOfAnswer, payloadOf, hparse]

/-- A list of three locations, the last two of them at one place. -/
def threeBody : String :=
  "\x7b\"value\":[\x7b\"@iot.id\":\"far\",\"location\":\x7b\"coordinates\":[20,60]\x7d\x7d," ++
    "\x7b\"@iot.id\":\"b\",\"location\":\x7b\"coordinates\":[7,51]\x7d\x7d," ++
    "\x7b\"@iot.id\":\"a\",\"location\":\x7b\"coordinates\":[7,51]\x7d\x7d]\x7d"

/-- The stations of that list. -/
def threeStations : List Station :=
  [⟨"far", "", 60.0, 20.0⟩, ⟨"b", "", 51.0, 7.0⟩, ⟨"a", "", 51.0, 7.0⟩]

/-- A location of that list. -/
def locatedAt (code : String) (longitude latitude : Int) : Json :=
  .obj [("@iot.id", .str code),
    ("location", .obj [("coordinates", .arr [.int longitude, .int latitude])])]

/-- The value that is written there. -/
def threePayload : Json :=
  .obj [("value", .arr [locatedAt "far" 20 60, locatedAt "b" 7 51, locatedAt "a" 7 51])]

set_option maxRecDepth 2000 in
theorem parse_threeBody : Json.parse 1000 threeBody = .ok threePayload := rfl

theorem ofPayload_threePayload : Station.ofPayload threePayload = .ok threeStations := rfl

/-- The stations of that list with their distances. -/
def threeRanked (far near : Float) : List RankedStation :=
  [⟨⟨"far", "", 60.0, 20.0⟩, far⟩, ⟨⟨"b", "", 51.0, 7.0⟩, near⟩, ⟨⟨"a", "", 51.0, 7.0⟩, near⟩]

theorem measured_threeRanked {far near : Float} (hfar : greatCircle 51.2 7.1 60.0 20.0 = .ok far)
    (hnear : greatCircle 51.2 7.1 51.0 7.0 = .ok near) :
    Measured ⟨51.2, 7.1⟩ threeStations (threeRanked far near) := by
  refine ⟨rfl, ?_⟩
  simp only [threeRanked, List.forall_mem_cons]
  exact ⟨hfar, hnear, hnear, by simp⟩

/-- Sines are not computed here, so what they say of the two places stands as a condition: the first
location of the response is the nearest only if it is not farther than the others, and those at one
place are never exchanged. -/
theorem stationsNear_foremost_of_three :
    ∃ far near, greatCircle 51.2 7.1 60.0 20.0 = .ok far ∧
      greatCircle 51.2 7.1 51.0 7.0 = .ok near ∧
      ∃ index first, (((Service.connect { baseUrl := "/v1" }).stationsNear ⟨51.2, 7.1⟩
        "").exchange [.response ⟨200, threeBody, "OK"⟩]).result = .ok index ∧
        nearest index = .ok first ∧
        index.map (fun s => s.siteCode) =
          (if near.isNaN || far ≤ near then ["far", "b", "a"] else ["b", "a", "far"] :
            List RawText) := by
  have hpayload :=
    result_fetch_response (c := .connect { baseUrl := "/v1" }) "" "OK" parse_threeBody
  obtain ⟨far, hfar⟩ : ∃ d, greatCircle 51.2 7.1 60.0 20.0 = .ok d := ⟨_, rfl⟩
  obtain ⟨near, hnear⟩ : ∃ d, greatCircle 51.2 7.1 51.0 7.0 = .ok d := ⟨_, rfl⟩
  refine ⟨far, near, hfar, hnear, ?_⟩
  rcases stationsNear_foremost (.connect { baseUrl := "/v1" }) ⟨51.2, 7.1⟩ "" _ _
      threeStations hpayload ofPayload_threePayload (List.cons_ne_nil _ _) with
    ⟨station, hmem, fault, hfault, -⟩ |
      ⟨ranked, index, first, hmeasured, hindex, hsorted, hfirst, -⟩
  · obtain ⟨distance, hdistance⟩ : ∃ d,
        greatCircle 51.2 7.1 station.latitude station.longitude = .ok d := by
      have hknown := (measured_threeRanked hfar hnear).1 ▸ hmem
      obtain ⟨ranked, hranked, rfl⟩ := List.mem_map.1 hknown
      exact ⟨_, (measured_threeRanked hfar hnear).2 _ hranked⟩
    rw [hdistance] at hfault
    cases hfault
  · refine ⟨index, first, hindex, hfirst, ?_⟩
    rw [hsorted.eq_sortByDistance, hmeasured.unique (measured_threeRanked hfar hnear)]
    have hnear : (near.isNaN || near ≤ near) = true := Doubles.notAfter_refl near
    simp only [threeRanked, sortByDistance, insertByDistance, RankedStation.notFarther, hnear,
      if_true]
    by_cases hle : (near.isNaN || decide (far ≤ near)) = true <;>
      simp only [hle, Bool.false_eq_true, if_true, if_false, List.map_cons, List.map_nil]

end Service

end StationWatch
