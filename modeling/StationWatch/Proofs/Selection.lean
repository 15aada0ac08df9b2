import StationWatch.Proofs.Identifiers

/-!
# Which station a clause selects

The clause of an identifier names one identifier again: a literal names the text that it quotes, and
a bare number the text of that number in the usual digits.  An identifier that is a number may be
written in other ways, with zeros in front or in the digits of another script.  Its clause then
names another identifier than it was made for, and two identifiers that are the same number have one
clause.

## Main definitions

* `Query.selected?` — the identifier that a clause names.
* `Query.canonical` — the identifier that is named by the clause of an identifier.

## Main results

* `Query.selected?_idClause` — what the clause of an identifier names.
* `Query.canonical_eq_iff` — two identifiers are named alike if they are equal or one number.
* `Cycle.exists_askedPath_of_request` — what the requests of a cycle ask for.
* `clauses_select_canonical` — which identifiers have one clause, and which stations a cycle
  selects.

## References

`SPEC_FULL.md`, sections 4.1 and 4.3, on the clause for the nearest station.
-/

namespace StationWatch.Query

open Literal

/-! ### Reading a clause -/

/-- The identifier that an expression names: the text of a literal, or a bare number in the usual
digits. -/
def named? (t : RawText) : Option RawText :=
  match scan t with
  | some (text, rest) => if rest.isEmpty then some text else none
  | none =>
    if t.characters?.any fun s => !s.isEmpty && s.toList.all Char.isDigit then
      some (toString (Nat.ofDigitChars 10 t.chars 0))
    else none

/-- The identifier that a clause names; a station is selected by a clause that names its own. -/
def selected? (clause : RawText) : Option RawText :=
  (clause.dropPrefix? idText.toList).bind named?

/-- The identifier that is named by the clause of an identifier: a number in the usual digits, and
any other identifier as it is. -/
def canonical (code : RawText) : RawText :=
  if isNumeric code then toString (Text.numeralValue code.chars) else code

variable {code a b : RawText}

theorem selected?_append (identifier : RawText) :
    selected? ("Thing/Locations/@iot.id eq " ++ identifier) = named? identifier := by
  have hopened : RawText.dropPrefix? idText.toList (idText ++ identifier) = some identifier :=
    RawText.dropPrefix?_append idText identifier
  change (RawText.dropPrefix? idText.toList (idText ++ identifier)).bind named? = _
  rw [hopened, Option.bind_some]

theorem toList_toString (n : Nat) : (toString n).toList = Nat.toDigits 10 n := by
  rw [Nat.toString_eq_repr, Nat.toList_repr]

theorem eq_of_toString_eq {m n : Nat} (h : toString m = toString n) : m = n := by
  have hdigits := congrArg String.toList h
  rw [toList_toString, toList_toString] at hdigits
  have hvalues := congrArg (fun cs => Nat.ofDigitChars 10 cs 0) hdigits
  simpa using hvalues

theorem named?_toString (n : Nat) : named? (toString n : String) = some ↑(toString n) := by
  have hunquoted : mark ∉ Nat.toDigits 10 n := mark_not_mem_digitsOf n
  have hdigits : (Nat.toDigits 10 n).all Char.isDigit = true := by
    rw [List.all_eq_true]
    intro c hc
    exact Nat.isDigit_of_mem_toDigits (by decide) (by decide) hc
  have hsome : (toString n).isEmpty = false := by
    rw [← Bool.not_eq_true, String.isEmpty_iff, ← String.toList_inj, toList_toString]
    exact Nat.toDigits_ne_nil
  have hunscanned : scan (toString n : String) = none := by
    have hclosed : RawText.dropPrefix? [mark] (toString n : String) = none := by
      rw [RawText.dropPrefix?, toList_toString]
      cases hcs : Nat.toDigits 10 n with
      | nil => rfl
      | cons c cs =>
        rw [hcs, List.mem_cons, not_or] at hunquoted
        simp [List.isPrefixOf, hunquoted.1]
    rw [scan, hclosed, Option.bind_none]
  have hbare : (RawText.characters? (toString n : String)).any
      (fun s => !s.isEmpty && s.toList.all Char.isDigit) = true := by
    rw [RawText.characters?_whole, Option.any_some, hsome, toList_toString, hdigits]
    rfl
  rw [named?, hunscanned]
  simp only [hbare, if_true, RawText.chars_whole, toList_toString]
  simp

theorem named?_ofText (text : RawText) : named? (ofText text) = some text := by
  have hscan := @scan_ofText text "" (by decide)
  rw [RawText.append_empty] at hscan
  rw [named?, hscan]
  rfl

/-- The clause of an identifier names the identifier, a number in the usual digits. -/
theorem selected?_idClause {clause : RawText} (h : idClause code = .ok clause) :
    selected? clause = some (canonical code) := by
  have hreadable := exists_idClause_iff.1 ⟨clause, h⟩
  unfold canonical
  cases hnumeric : isNumeric code with
  | true =>
    rw [idClause_of_numeric hnumeric hreadable] at h
    rw [← Except.ok.inj h, selected?_append, named?_toString]
    rfl
  | false =>
    rw [idClause_of_not_numeric hnumeric] at h
    rw [← Except.ok.inj h, selected?_append, named?_ofText]
    rfl

/-! ### Identifiers with one clause -/

theorem isDigitLike_of_isDigit {c : Char} (h : c.isDigit = true) : Text.isDigitLike c = true := by
  have hblock : 0x30 ≤ c.toNat ∧ c.toNat < 0x30 + 10 := by
    obtain ⟨hlow, hhigh⟩ := Char.isDigit_iff_toNat.1 h
    exact ⟨hlow, Nat.lt_succ_of_le hhigh⟩
  apply Text.isDigitLike_of_digit
  rw [Text.digitValue?, Text.zeros, List.find?_cons_of_pos (by simpa using hblock)]
  rfl

/-- The usual digits of a number are taken for a number. -/
theorem isNumeric_toString (n : Nat) : isNumeric (toString n : String) = true := by
  refine isNumeric_iff.2 ⟨toString n, rfl, ?_⟩
  rw [toList_toString]
  refine ⟨Nat.toDigits_ne_nil, fun c hc => ?_⟩
  exact isDigitLike_of_isDigit (Nat.isDigit_of_mem_toDigits (by decide) (by decide) hc)

theorem canonical_of_numeric (h : isNumeric code = true) :
    canonical code = toString (Text.numeralValue code.chars) := if_pos h

theorem canonical_of_not_numeric (h : isNumeric code = false) : canonical code = code :=
  if_neg (by rw [h]; decide)

/-- Two identifiers are named alike if and only if they are equal or the same number. -/
theorem canonical_eq_iff :
    canonical a = canonical b ↔ a = b ∨ isNumeric a = true ∧ isNumeric b = true ∧
      Text.numeralValue a.chars = Text.numeralValue b.chars := by
  constructor
  · intro heq
    cases ha : isNumeric a with
    | true =>
      rw [canonical_of_numeric ha] at heq
      cases hb : isNumeric b with
      | true =>
        rw [canonical_of_numeric hb] at heq
        exact .inr ⟨rfl, rfl, eq_of_toString_eq (RawText.whole.inj heq)⟩
      | false =>
        -- The text of a number cannot be an identifier that is taken for none.
        rw [canonical_of_not_numeric hb] at heq
        rw [← heq, isNumeric_toString] at hb
        cases hb
    | false =>
      rw [canonical_of_not_numeric ha] at heq
      cases hb : isNumeric b with
      | true =>
        rw [canonical_of_numeric hb] at heq
        rw [heq, isNumeric_toString] at ha
        cases ha
      | false =>
        rw [canonical_of_not_numeric hb] at heq
        exact .inl heq
  · rintro (rfl | ⟨ha, hb, heq⟩)
    · rfl
    · rw [canonical_of_numeric ha, canonical_of_numeric hb, heq]

/-- Two identifiers have one clause if and only if they are named alike. -/
theorem idClause_eq_iff {clause clause' : RawText} (ha : idClause a = .ok clause)
    (hb : idClause b = .ok clause') : clause = clause' ↔ canonical a = canonical b := by
  constructor
  · rintro rfl
    have hselected := selected?_idClause ha
    rw [selected?_idClause hb] at hselected
    exact (Option.some.inj hselected).symm
  · intro heq
    rcases canonical_eq_iff.1 heq with rfl | ⟨hnum, hnum', hvalue⟩
    · rw [ha] at hb
      exact Except.ok.inj hb
    · rw [idClause_of_numeric hnum (exists_idClause_iff.1 ⟨_, ha⟩)] at ha
      rw [idClause_of_numeric hnum' (exists_idClause_iff.1 ⟨_, hb⟩), ← hvalue] at hb
      exact (Except.ok.inj ha).symm.trans (Except.ok.inj hb)

end StationWatch.Query

namespace StationWatch

/-! ### Stations at one place -/

section

variable {p : ReferencePoint} {stations : List Station} {latitude longitude distance : Float}

theorem withDistances_of_one_place
    (hplace : ∀ s ∈ stations, s.latitude = latitude ∧ s.longitude = longitude)
    (hdistance : greatCircle p.latitude p.longitude latitude longitude = .ok distance) :
    withDistances p stations = .ok (stations.map fun s => ⟨s, distance⟩) := by
  induction stations with
  | nil => rfl
  | cons station rest ih =>
    obtain ⟨hlatitude, hlongitude⟩ := hplace station List.mem_cons_self
    have hrest := ih fun s hs => hplace s (List.mem_cons_of_mem _ hs)
    rw [withDistances, hlatitude, hlongitude, hdistance, hrest]
    rfl

/-- Stations at one place are ranked in their given order. -/
theorem rank_of_one_place (hstations : stations ≠ [])
    (hplace : ∀ s ∈ stations, s.latitude = latitude ∧ s.longitude = longitude)
    (hdistance : greatCircle p.latitude p.longitude latitude longitude = .ok distance) :
    rank p stations = .ok (stations.map fun s => ⟨s, distance⟩) := by
  have hsorted : (stations.map fun s => (⟨s, distance⟩ : RankedStation)).Pairwise
      fun a b => a.notFarther b = true := by
    rw [List.pairwise_map]
    refine List.pairwise_of_forall fun a b => ?_
    exact (RankedStation.equidistant_iff.1 (RankedStation.equidistant_of_eq rfl)).1
  rw [rank, if_neg (by simpa using hstations), withDistances_of_one_place hplace hdistance]
  show Except.ok (sortByDistance _) = _
  rw [sortByDistance_eq, hsorted.insertionSort_eq]

end

namespace Cycle

/-! ### The requests of a cycle -/

section

variable (service : Service) (registry : Registry) (settings : WeatherSettings)
variable (p : ReferencePoint) (replies : List Reply)

/-- Every request of a cycle asks for the locations, or for a measurement at the station that is
found. -/
theorem exists_askedPath_of_request {r : Request}
    (h : r ∈ ((program service registry settings p).exchange replies).requests) :
    r = service.requestFor (service.address Query.onlineLocations) ∨
      ∃ station count name path,
        foundIn service p (locationsAnswer service replies) = .ok (station, count) ∧
        askedPath registry settings station name = some path ∧
        r = service.requestFor (service.address path) := by
  obtain ⟨paths, hasks, hprogram⟩ := exists_asks service registry settings p replies
  obtain ⟨counts, -, -, hsent⟩ := service.requests_askAll paths replies
  rw [hprogram, hsent, List.mem_flatMap] at h
  obtain ⟨⟨path, count⟩, hpair, hr⟩ := h
  rw [List.eq_of_mem_replicate hr]
  have hpath : path ∈ paths := (List.of_mem_zip hpair).1
  unfold Asks at hasks
  split at hasks
  · rw [hasks, List.mem_singleton] at hpath
    exact .inl (by rw [hpath])
  · rename_i station found hfound
    obtain ⟨reached, later, -, -, rfl⟩ := hasks
    rcases List.mem_cons.1 hpath with rfl | hpath
    · exact .inl rfl
    · obtain ⟨name, -, hname⟩ := List.mem_filterMap.1 hpath
      exact .inr ⟨station, found, name, path, hfound, hname, rfl⟩

end

end Cycle

/-- **A clause selects the station whose identifier is the canonical one.**  Two identifiers have
one clause if and only if they are equal or the same number, and what a clause names is a number in
the usual digits or the identifier itself.  So every request of a cycle that asks the nearest
station selects, of all stations in the response, exactly those with the canonical form of its
identifier: the station itself and none with another identifier if that form is its own, and
otherwise not the station, but any that has this form. -/
theorem clauses_select_canonical (service : Service) (registry : Registry)
    (settings : WeatherSettings) (p : ReferencePoint) (s : Session) :
    (∀ (a b clause clause' : RawText), Query.idClause a = .ok clause →
      Query.idClause b = .ok clause' →
      Query.selected? clause = some (Query.canonical a) ∧
      (clause = clause' ↔ a = b ∨ Query.isNumeric a = true ∧ Query.isNumeric b = true ∧
        Text.numeralValue a.chars = Text.numeralValue b.chars)) ∧
    (settings.useNearest = true → ∃ sent,
      (s.runCycle service registry settings p).2.journal.requests = s.journal.requests ++ sent ∧
      ∀ r ∈ sent, r.url = service.address Query.onlineLocations ∨
        ∃ (station : RankedStation) (index : List RankedStation) (literal clause path : RawText),
          service.stationsOfAnswer p Query.onlineLocations
            (Cycle.locationsAnswer service s.replies) = .ok index ∧
          station ∈ index ∧ (∀ other ∈ index, station.notFarther other = true) ∧
          Query.latestPath literal clause = .ok path ∧ r.url = service.address path ∧
          Query.idClause station.siteCode = .ok clause ∧
          ∀ other ∈ index, Query.selected? clause = some other.siteCode ↔
            other.siteCode = Query.canonical station.siteCode) := by
  constructor
  · intro a b clause clause' ha hb
    refine ⟨Query.selected?_idClause ha, ?_⟩
    rw [Query.idClause_eq_iff ha hb]
    exact Query.canonical_eq_iff
  · intro hnearest
    refine ⟨_, s.requests_runCycle service registry settings p, ?_⟩
    intro r hr
    rcases Cycle.exists_askedPath_of_request service registry settings p s.replies hr with
      rfl | ⟨station, count, name, path, hfound, hpath, rfl⟩
    · exact .inl rfl
    · right
      obtain ⟨index, hindex, hmem, hleast⟩ := Cycle.exists_index_of_foundIn hfound
      obtain ⟨literal, clause, hquery, hclause⟩ := Cycle.exists_clause_of_askedPath hpath
      rw [if_pos hnearest] at hclause
      refine ⟨station, index, literal, clause, path, hindex, hmem, hleast, hquery, rfl, hclause, ?_⟩
      intro other _
      rw [Query.selected?_idClause hclause, Option.some.injEq]
      exact eq_comm

/-- A list of two locations at one place.  The identifier of the first one has a zero in front, and
that of the second one is the same number without it. -/
def twoSevensBody : String :=
  "\x7b\"value\":[\x7b\"@iot.id\":\"07\",\"location\":\x7b\"coordinates\":[7,51]\x7d\x7d," ++
    "\x7b\"@iot.id\":\"7\",\"location\":\x7b\"coordinates\":[7,51]\x7d\x7d]\x7d"

theorem exists_parse_twoSevensBody : ∃ payload, Json.parse 1000 twoSevensBody = .ok payload ∧
    Station.ofPayload payload = .ok [⟨"07", "", 51.0, 7.0⟩, ⟨"7", "", 51.0, 7.0⟩] :=
  ⟨_, rfl, rfl⟩

theorem exists_index_twoSevensBody : ∃ distance,
    (Service.connect { baseUrl := "/v1" }).stationsOfAnswer ⟨51.2, 7.1⟩ Query.onlineLocations
        (.ok ⟨200, twoSevensBody, "OK"⟩) =
      .ok [⟨⟨"07", "", 51.0, 7.0⟩, distance⟩, ⟨⟨"7", "", 51.0, 7.0⟩, distance⟩] := by
  obtain ⟨payload, hparse, hread⟩ := exists_parse_twoSevensBody
  have hlimit : 1000 = (Service.connect { baseUrl := "/v1" }).platform.nestingLimit := rfl
  rw [hlimit] at hparse
  obtain ⟨distance, hdistance⟩ : ∃ d, greatCircle 51.2 7.1 51.0 7.0 = .ok d := ⟨_, rfl⟩
  have hrank := @rank_of_one_place ⟨51.2, 7.1⟩ [⟨"07", "", 51.0, 7.0⟩, ⟨"7", "", 51.0, 7.0⟩]
    51.0 7.0 distance (by simp) (by simp) hdistance
  refine ⟨distance, ?_⟩
  simp [Service.stationsOfAnswer, Service.payloadOfAnswer, Service.payloadOf, hparse,
    Service.rankPayload, hread, hrank]

/-- The station with the zero is the one that is found. -/
theorem foundIn_twoSevensBody {distance : Float}
    (h : (Service.connect { baseUrl := "/v1" }).stationsOfAnswer ⟨51.2, 7.1⟩
        Query.onlineLocations (.ok ⟨200, twoSevensBody, "OK"⟩) =
      .ok [⟨⟨"07", "", 51.0, 7.0⟩, distance⟩, ⟨⟨"7", "", 51.0, 7.0⟩, distance⟩]) :
    Cycle.foundIn (.connect { baseUrl := "/v1" }) ⟨51.2, 7.1⟩
        (Cycle.locationsAnswer (.connect { baseUrl := "/v1" })
          [.response ⟨200, twoSevensBody, "OK"⟩]) =
      .ok (⟨⟨"07", "", 51.0, 7.0⟩, distance⟩, 2) := by
  have hanswer : Cycle.locationsAnswer (.connect { baseUrl := "/v1" })
      [.response ⟨200, twoSevensBody, "OK"⟩] = .ok ⟨200, twoSevensBody, "OK"⟩ := rfl
  rw [hanswer, Cycle.foundIn, h]
  rfl

/-- A zero in front of an identifier is lost: the nearest station is the one with the zero, and the
measurements of the other one are asked for. -/
theorem leading_zero_selects_other :
    Query.idClause "07" = Query.idClause "7" ∧ "07" ≠ "7" ∧
    ∃ near far clause path,
      (Service.connect { baseUrl := "/v1" }).stationsOfAnswer ⟨51.2, 7.1⟩ Query.onlineLocations
        (.ok ⟨200, twoSevensBody, "OK"⟩) = .ok [near, far] ∧
      near.siteCode = "07" ∧ far.siteCode = "7" ∧ Query.idClause near.siteCode = .ok clause ∧
      Query.selected? clause = some far.siteCode ∧
      Query.latestPath (Query.Literal.ofString "lufttemperatur") clause = .ok path ∧
      ((Session.ofReplies [.response ⟨200, twoSevensBody, "OK"⟩]).runCycle
          (.connect { baseUrl := "/v1" }) .builtIn { useNearest := true }
          ⟨51.2, 7.1⟩).2.journal.requests =
        [⟨"/v1" ++ Query.onlineLocations, 10.0⟩, ⟨"/v1" ++ path, 10.0⟩] := by
  have hclause : Query.idClause "07" = .ok "Thing/Locations/@iot.id eq 7" := by decide
  have hselects : Query.selected? "Thing/Locations/@iot.id eq 7" = some ↑"7" := by
    have hcanonical : Query.canonical "07" = "7" := by decide +kernel
    rw [← hcanonical]
    exact Query.selected?_idClause hclause
  obtain ⟨distance, hindex⟩ := exists_index_twoSevensBody
  have hpath := Query.latestPath_whole (Query.Literal.ofString "lufttemperatur")
    "Thing/Locations/@iot.id eq 7"
  refine ⟨by decide, by decide, _, _, _, _, hindex, rfl, rfl, hclause, hselects, hpath, ?_⟩
  obtain ⟨m, hm, hfixed, hfilter⟩ : ∃ m, Registry.builtIn.get? "TEMPERATURE" = some m ∧
      m.placeholder = .null ∧ m.streamFilter = .str "lufttemperatur" := ⟨_, rfl, rfl, rfl⟩
  have hquery : Query.latestObservation m.streamFilter "Thing/Locations/@iot.id eq 7" = .ok _ :=
    Query.latestObservation_eq_ok_iff.2 ⟨_, by rw [hfilter, Query.Literal.ofJson_str,
      Query.Literal.ofText_whole], hpath⟩
  have hprogram := (Cycle.exchange_program_of_ok _ .builtIn { useNearest := true }
    (foundIn_twoSevensBody hindex)).1
  rw [Session.requests_runCycle]
  refine hprogram.trans ?_
  simp only [Cycle.readAll, hm, Cycle.read, hfixed, Cycle.pathFor, Cycle.clause, hclause, if_true,
    hquery]
  rfl

end StationWatch
