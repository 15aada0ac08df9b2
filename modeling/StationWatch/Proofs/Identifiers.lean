import StationWatch.Proofs.Numerals
import StationWatch.Proofs.Outcomes
import StationWatch.Proofs.Filters

/-!
# The clause for the identifier of a station

An identifier that shows nothing but digits is taken for a number and written bare; any other one is
written as a literal.  Not everything that shows digits is a number, so for some identifiers there
is no clause.  A cycle that asks the nearest station for its measurements then ends at the first one
that needs a query.

## Main definitions

* `Query.Unreadable` — the identifiers that are taken for a number and are none.
* `Cycle.Unposed` — a measurement that is reached and for which there is no query.

## Main results

* `Query.idClause_of_numeric`, `Query.idClause_of_unreadable`, `Query.idClause_of_not_numeric` — the
  clause of every identifier.
* `Cycle.unposed_of_settle`, `Cycle.Unposed.outcomeWith` — a cycle fails for want of a query if and
  only if it reaches a measurement that has none.
* `clauses_exist_unless_unreadable` — which identifiers have a clause, and which cycles fail for
  want of one.

## References

`SPEC_FULL.md`, section 4.3, on the clause for a station.
-/

namespace StationWatch.Query

/-! ### The clause of an identifier -/

/-- The identifiers that are taken for a number and are none: one of the characters only looks like
a digit, or there are too many. -/
def Unreadable (code : RawText) : Prop :=
  isNumeric code = true ∧
    ((∃ c ∈ code.chars, Text.digitValue? c = none) ∨ Decimal.maxDigits < code.chars.length)

variable {code : RawText}

theorem isNumeric_iff :
    isNumeric code = true ↔ ∃ s : String, code = s ∧
      s.toList ≠ [] ∧ ∀ c ∈ s.toList, Text.isDigitLike c = true := by
  cases code <;> simp [isNumeric]

/-- What is taken for a number consists of characters that show digits. -/
theorem chars_of_isNumeric (h : isNumeric code = true) :
    code.chars ≠ [] ∧ ∀ c ∈ code.chars, Text.isDigitLike c = true := by
  obtain ⟨s, rfl, hs⟩ := isNumeric_iff.1 h
  rwa [RawText.chars_whole]

/-- What is taken for a number and is not unreadable is a numeral. -/
theorem numeral_of_not_unreadable (hnumeric : isNumeric code = true) (h : ¬ Unreadable code) :
    Text.Numeral code.chars := by
  have hboth : ¬ ((∃ c ∈ code.chars, Text.digitValue? c = none) ∨
      Decimal.maxDigits < code.chars.length) := fun hsome => h ⟨hnumeric, hsome⟩
  rw [not_or] at hboth
  constructor
  · intro c hc
    rw [Option.isSome_iff_ne_none]
    intro hnone
    exact hboth.1 ⟨c, hc, hnone⟩
  · exact Nat.not_lt.1 hboth.2

theorem not_numeral_of_unreadable (h : Unreadable code) : ¬ Text.Numeral code.chars := by
  intro hnumeral
  rcases h.2 with ⟨c, hc, hnone⟩ | hlong
  · have hdigit := hnumeral.digits c hc
    rw [hnone] at hdigit
    cases hdigit
  · exact absurd hnumeral.short (Nat.not_le.2 hlong)

/-- A number is written bare. -/
theorem idClause_of_numeric (hnumeric : isNumeric code = true) (h : ¬ Unreadable code) :
    idClause code =
      .ok ("Thing/Locations/@iot.id eq " ++ toString (Text.numeralValue code.chars)) := by
  obtain ⟨hne, -⟩ := chars_of_isNumeric hnumeric
  rw [idClause, if_pos hnumeric,
    Decimal.integer?_of_numeral (numeral_of_not_unreadable hnumeric h) hne]
  rfl

/-- An unreadable identifier has no clause. -/
theorem idClause_of_unreadable (h : Unreadable code) :
    ∃ fault, idClause code = .error (.identifier code fault) := by
  obtain ⟨fault, hfault⟩ := Decimal.integer?_of_not_numeral (chars_of_isNumeric h.1).2
    (not_numeral_of_unreadable h)
  exact ⟨fault, by rw [idClause, if_pos h.1, hfault]⟩

/-- Any other identifier is written as a literal. -/
theorem idClause_of_not_numeric (h : isNumeric code = false) :
    idClause code = .ok ("Thing/Locations/@iot.id eq " ++ Literal.ofText code) := by
  rw [idClause, h]
  rfl

/-- There is a clause unless the identifier is unreadable. -/
theorem exists_idClause_iff : (∃ clause, idClause code = .ok clause) ↔ ¬ Unreadable code := by
  constructor
  · rintro ⟨clause, hclause⟩ hunreadable
    obtain ⟨fault, hfault⟩ := idClause_of_unreadable hunreadable
    rw [hclause] at hfault
    cases hfault
  · intro h
    cases hnumeric : isNumeric code with
    | true => exact ⟨_, idClause_of_numeric hnumeric h⟩
    | false => exact ⟨_, idClause_of_not_numeric hnumeric⟩

theorem unreadable_of_idClause {fault : Fault} (h : idClause code = .error fault) :
    Unreadable code := by
  by_contra hreadable
  obtain ⟨clause, hclause⟩ := exists_idClause_iff.2 hreadable
  rw [h] at hclause
  cases hclause

end StationWatch.Query

namespace StationWatch

/-! ### Faults of requests -/

theorem PayloadFault.asFault_ne_query (told : PayloadFault) (fault : Query.Fault) :
    told.asFault ≠ .query fault := by
  cases told <;> simp [asFault]

namespace Service

variable (c : Service) (path : RawText) (fault : Query.Fault)

theorem faultOf_ne_query (url : RawText) (failure : NetworkFailure) :
    c.faultOf url failure ≠ .query fault := by
  unfold faultOf
  split
  · simp
  · split <;> simp

theorem payloadOf_ne_query (response : Response) :
    c.payloadOf path response ≠ .error (.query fault) := by
  unfold payloadOf
  split
  · simp
  · split <;> simp

/-- What is wrong with an answer is no fault of a query. -/
theorem payloadOfAnswer_ne_query (answer : Except NetworkFailure Response) :
    c.payloadOfAnswer path answer ≠ .error (.query fault) := by
  cases answer with
  | error failure =>
    intro h
    exact faultOf_ne_query c fault _ failure (Except.error.inj h)
  | ok response => exact payloadOf_ne_query c path fault response

theorem observationOfAnswer_ne_query (measurement : RawText)
    (answer : Except NetworkFailure Response) :
    c.observationOfAnswer path measurement answer ≠ .error (.query fault) := by
  intro h
  unfold observationOfAnswer at h
  split at h
  · rename_i told htold
    rw [Except.error.inj h] at htold
    exact payloadOfAnswer_ne_query c path fault answer htold
  · split at h
    · exact PayloadFault.asFault_ne_query _ fault (Except.error.inj h)
    · cases h

theorem foundIn_ne_query (p : ReferencePoint) (answer : Except NetworkFailure Response) :
    Cycle.foundIn c p answer ≠ .error (.query fault) := by
  intro h
  unfold Cycle.foundIn stationsOfAnswer at h
  split at h
  · rename_i told htold
    rw [Except.error.inj h] at htold
    split at htold
    · rename_i other hother
      rw [Except.error.inj htold] at hother
      exact payloadOfAnswer_ne_query c _ fault answer hother
    · split at htold
      · exact PayloadFault.asFault_ne_query _ fault (Except.error.inj htold)
      · cases htold
  · split at h
    · cases h
    · cases h

end Service

namespace Cycle

/-! ### Measurements without a query -/

section

variable (service : Service) (registry : Registry) (settings : WeatherSettings)
variable (station : RankedStation)

/-- A measurement without a query is reached: those before it are read, and nothing stands in for
it. -/
def Unposed (names : List RawText) (replies : List Reply) (fault : Query.Fault) : Prop :=
  ∃ before name after measured m, names = before ++ name :: after ∧
    InTurn service registry settings station before replies measured ∧
    registry.get? name = some m ∧ m.placeholder = .null ∧
    pathFor settings m station = .error fault

end

variable {service : Service} {registry : Registry} {settings : WeatherSettings}
variable {station : RankedStation} {replies : List Reply} {name : RawText} {m : Measurement}
variable {fault : Query.Fault}

/-- A reading meets the fault of a query only if there is no query for the measurement. -/
theorem pathFor_of_read
    (h : ((read service settings name m station).exchange replies).result =
      .error (.query fault)) :
    m.placeholder = .null ∧ pathFor settings m station = .error fault := by
  by_cases hfixed : m.placeholder = .null
  · refine ⟨hfixed, ?_⟩
    cases hpath : pathFor settings m station with
    | error other =>
      rw [read_of_no_path hfixed hpath] at h
      cases h
      rfl
    | ok path =>
      rw [exchange_read_of_path hfixed hpath, Service.exchange_latest] at h
      cases hanswer : service.observationOfAnswer path name
          ((service.send (service.address path)).exchange replies).result with
      | error other =>
        rw [hanswer] at h
        cases h
        exact absurd hanswer (service.observationOfAnswer_ne_query path fault name _)
      | ok observation =>
        rw [hanswer] at h
        cases h
  · rw [read_of_placeholder hfixed] at h
    cases hnumber : m.placeholder.toReal <;> rw [hnumber] at h <;> cases h

theorem outcomeOf_eq_query_iff {stage : Stage} {told : Fault} :
    outcomeOf stage told = .parseFailure (.fault (.query fault)) .fetch ↔ told = .query fault := by
  cases told with
  | fetch other => cases other <;> simp [outcomeOf, Outcome.ofFetchFault]
  | _ => simp [outcomeOf]

/-- A reading that meets a fault ends the readings with the outcome of that fault. -/
theorem settle_readAll_of_fault (hm : registry.get? name = some m) {told : Fault}
    (hfault : ((read service settings name m station).exchange replies).result = .error told)
    (after : List RawText) (values : ChannelValues) :
    settle ((readAll service registry settings station (name :: after) values).exchange
      replies).result = outcomeOf .fetch told := by
  rw [readAll]
  simp only [hm, Dialogue.exchange_bind, hfault]
  cases told <;> simp [settle, outcomeOf]

/-- Readings that end with the fault of a query have reached a measurement without one. -/
theorem unposed_of_settle {names : List RawText} {values : ChannelValues}
    (h : settle ((readAll service registry settings station names values).exchange
      replies).result = .parseFailure (.fault (.query fault)) .fetch) :
    Unposed service registry settings station names replies fault := by
  induction names generalizing values replies with
  | nil => cases h
  | cons name names ih =>
    cases hm : registry.get? name with
    | none =>
      rw [readAll, hm] at h
      cases h
    | some m =>
      cases hresult : ((read service settings name m station).exchange replies).result with
      | error told =>
        -- Only the fault of a query is told as one.
        rw [settle_readAll_of_fault hm hresult, outcomeOf_eq_query_iff] at h
        rw [h] at hresult
        obtain ⟨hfixed, hpath⟩ := pathFor_of_read hresult
        exact ⟨[], name, names, [], m, rfl, .nil replies, hm, hfixed, hpath⟩
      | ok x =>
        rw [readAll] at h
        simp only [hm, Dialogue.exchange_bind, hresult] at h
        cases hkey : m.channel.isKey with
        | false =>
          rw [hkey] at h
          cases h
        | true =>
          simp only [hkey, if_true] at h
          obtain ⟨before, last, after, measured, m', hnames, hbefore, hrest⟩ := ih h
          exact ⟨name :: before, last, after, (m, x) :: measured, m',
            by rw [hnames, List.cons_append], .cons hm hresult hbefore, hrest⟩

/-- Readings that reach a measurement without a query end with its fault. -/
theorem Unposed.settle_readAll (hregistry : registry.HasTextChannels) {names : List RawText}
    (h : Unposed service registry settings station names replies fault) (values : ChannelValues) :
    settle ((readAll service registry settings station names values).exchange replies).result =
      .parseFailure (.fault (.query fault)) .fetch := by
  obtain ⟨before, name, after, measured, m, rfl, hbefore, hm, hfixed, hpath⟩ := h
  obtain ⟨table, htable⟩ := hbefore.exchange_readAll hregistry (name :: after) values
  have hread (left : List Reply) :
      ((read service settings name m station).exchange left).result = .error (.query fault) := by
    rw [read_of_no_path hfixed hpath]
    rfl
  rw [htable]
  exact settle_readAll_of_fault hm (hread _) after table

section

variable (service : Service) (registry : Registry) (settings : WeatherSettings)
variable (p : ReferencePoint)

/-- A cycle that fails for want of a query has found a station and reached a measurement without
one. -/
theorem exists_unposed (h : outcomeWith service registry settings p replies =
    .parseFailure (.fault (.query fault)) .fetch) :
    ∃ station count, foundIn service p (locationsAnswer service replies) = .ok (station, count) ∧
      Unposed service registry settings station settings.measurements
        (service.repliesAfter [Query.onlineLocations] replies) fault := by
  cases hfound : foundIn service p (locationsAnswer service replies) with
  | error told =>
    have hsearch := exchange_findStation service p replies
    rw [hfound] at hsearch
    rw [outcomeWith, exchange_program_of_error service registry settings p
      (congrArg Exchange.result hsearch), outcomeOf_eq_query_iff] at h
    -- The query for the locations always exists.
    rw [h] at hfound
    exact absurd hfound (service.foundIn_ne_query fault p _)
  | ok found =>
    obtain ⟨station, count⟩ := found
    rw [outcomeWith, exchange_program_of_found service registry settings hfound] at h
    exact ⟨station, count, rfl, unposed_of_settle h⟩

/-- Such a cycle fails for want of a query. -/
theorem Unposed.outcomeWith (hregistry : registry.HasTextChannels) {count : Nat}
    (hfound : foundIn service p (locationsAnswer service replies) = .ok (station, count))
    (h : Unposed service registry settings station settings.measurements
      (service.repliesAfter [Query.onlineLocations] replies) fault) :
    Cycle.outcomeWith service registry settings p replies =
      .parseFailure (.fault (.query fault)) .fetch := by
  rw [Cycle.outcomeWith, exchange_program_of_found service registry settings hfound]
  exact h.settle_readAll hregistry []

end

/-- The query for a measurement lacks the clause of an identifier if and only if the nearest station
is to be asked and its identifier has none. -/
theorem pathFor_eq_identifier_iff {code : RawText} {told : Decimal.IntegerFault} :
    pathFor settings m station = .error (.identifier code told) ↔
      settings.useNearest = true ∧
        Query.idClause station.siteCode = .error (.identifier code told) := by
  have hposed (c : RawText) :
      Query.latestObservation m.streamFilter c ≠ .error (.identifier code told) := by
    unfold Query.latestObservation
    split
    · rename_i literal _
      cases Query.latestPath literal c <;> exact nofun
    · simp
  unfold pathFor clause
  cases hnearest : settings.useNearest with
  | false => simpa using hposed _
  | true =>
    cases hclause : Query.idClause station.siteCode with
    | error fault => simp
    | ok c => simpa using hposed c

/-- A cycle has to ask the nearest station for a measurement, and that station has this identifier,
which is unreadable. -/
def AsksUnreadable (service : Service) (registry : Registry) (settings : WeatherSettings)
    (p : ReferencePoint) (replies : List Reply) (code : RawText) : Prop :=
  settings.useNearest = true ∧ Query.Unreadable code ∧
    ∃ station count before name after measured m,
      foundIn service p (locationsAnswer service replies) = .ok (station, count) ∧
      station.siteCode = code ∧ settings.measurements = before ++ name :: after ∧
      InTurn service registry settings station before
        (service.repliesAfter [Query.onlineLocations] replies) measured ∧
      registry.get? name = some m ∧ m.placeholder = .null

section

variable (service : Service) {registry : Registry} (settings : WeatherSettings)
variable (p : ReferencePoint) {code : RawText}

/-- A cycle that fails for want of a clause asks a station with an unreadable identifier. -/
theorem asksUnreadable_of_outcomeWith {told : Decimal.IntegerFault}
    (h : outcomeWith service registry settings p replies =
      .parseFailure (.fault (.query (.identifier code told))) .fetch) :
    AsksUnreadable service registry settings p replies code := by
  obtain ⟨station, count, hfound, before, name, after, measured, m, hnames, hbefore, hm, hfixed,
    hpath⟩ := exists_unposed service registry settings p h
  obtain ⟨hnearest, hclause⟩ := pathFor_eq_identifier_iff.1 hpath
  have hunreadable := Query.unreadable_of_idClause hclause
  -- The fault names the identifier of the station.
  obtain ⟨fault, hfault⟩ := Query.idClause_of_unreadable hunreadable
  rw [hclause] at hfault
  cases hfault
  exact ⟨hnearest, hunreadable, station, count, before, name, after, measured, m, hfound, rfl,
    hnames, hbefore, hm, hfixed⟩

/-- A cycle that asks a station with an unreadable identifier fails for want of a clause. -/
theorem AsksUnreadable.outcomeWith (hregistry : registry.HasTextChannels)
    (h : AsksUnreadable service registry settings p replies code) :
    ∃ told, Cycle.outcomeWith service registry settings p replies =
      .parseFailure (.fault (.query (.identifier code told))) .fetch := by
  obtain ⟨hnearest, hunreadable, station, count, before, name, after, measured, m, hfound, rfl,
    hnames, hbefore, hm, hfixed⟩ := h
  obtain ⟨told, hclause⟩ := Query.idClause_of_unreadable hunreadable
  have hunposed : Unposed service registry settings station settings.measurements
      (service.repliesAfter [Query.onlineLocations] replies)
      (.identifier station.siteCode told) :=
    ⟨before, name, after, measured, m, hnames, hbefore, hm, hfixed,
      pathFor_eq_identifier_iff.2 ⟨hnearest, hclause⟩⟩
  exact ⟨told, hunposed.outcomeWith service registry settings p hregistry hfound⟩

end

end Cycle

/-- **There is a clause for every identifier that is not unreadable.**  It is a bare whole number,
the one that the digits stand for, if the identifier is taken for a number, and otherwise a literal
that is read back as the identifier.  An unreadable identifier has no clause.  A cycle fails for
want of a clause only if it has to ask the nearest station for a measurement and that station has an
unreadable identifier, and then it does. -/
theorem clauses_exist_unless_unreadable (code : RawText) :
    (Query.Unreadable code → ∃ told, Query.idClause code = .error (.identifier code told)) ∧
    (¬ Query.Unreadable code → ∃ identifier,
      Query.idClause code = .ok ("Thing/Locations/@iot.id eq " ++ identifier) ∧
      (Query.isNumeric code = true → identifier = toString (Text.numeralValue code.chars)) ∧
      (Query.isNumeric code = false → Query.Literal.scan identifier = some (code, ↑""))) ∧
    ∀ (service : Service) (registry : Registry) (settings : WeatherSettings) (p : ReferencePoint)
      (s : Session),
      let lacksClause := ∃ told, (s.runCycle service registry settings p).1 =
        .parseFailure (.fault (.query (.identifier code told))) .fetch
      let asks := Cycle.AsksUnreadable service registry settings p s.replies code
      (lacksClause → asks) ∧ (registry.HasTextChannels → asks → lacksClause) := by
  refine ⟨Query.idClause_of_unreadable, ?_, ?_⟩
  · intro hreadable
    cases hnumeric : Query.isNumeric code with
    | true => exact ⟨_, Query.idClause_of_numeric hnumeric hreadable, fun _ => rfl, by simp⟩
    | false =>
      refine ⟨_, Query.idClause_of_not_numeric hnumeric, by simp, fun _ => ?_⟩
      have hscan := @Query.Literal.scan_ofText code "" (by decide)
      rwa [RawText.append_empty] at hscan
  · intro service registry settings p s lacksClause asks
    have houtcome : (s.runCycle service registry settings p).1 =
        Cycle.outcomeWith service registry settings p s.replies :=
      s.runCycle_fst service registry settings p
    constructor
    · rintro ⟨told, hlacks⟩
      exact Cycle.asksUnreadable_of_outcomeWith service settings p (houtcome.symm.trans hlacks)
    · intro hregistry hasks
      obtain ⟨told, hlacks⟩ := hasks.outcomeWith service settings p hregistry
      exact ⟨told, houtcome.trans hlacks⟩

/-- A list of one location, whose identifier is a raised two. -/
def raisedTwoBody : String :=
  "\x7b\"value\":[\x7b\"@iot.id\":\"²\",\"location\":\x7b\"coordinates\":[7,51]\x7d\x7d]\x7d"

/-- A raised two shows a digit and is no number, so a cycle that finds such a station fails. -/
theorem raisedTwo_has_no_clause :
    Query.isNumeric "²" = true ∧ Query.Unreadable "²" ∧
    Query.idClause "²" = .error (.identifier "²" .malformed) ∧
    ((Session.ofReplies [.response ⟨200, raisedTwoBody, "OK"⟩]).runCycle
      (.connect { baseUrl := "/v1" }) .builtIn { useNearest := true } ⟨51.2, 7.1⟩).1 =
        .parseFailure (.fault (.query (.identifier "²" .malformed))) .fetch := by
  have hsign : Text.digitValue? '²' = none := by decide
  exact ⟨by decide, ⟨by decide, .inl ⟨'²', by decide, hsign⟩⟩, by decide, rfl⟩

end StationWatch
