import StationWatch.Observation
import StationWatch.Proofs.Entries

/-!
# What a response must show to be read

A response is read at one place: the first observation of the first data stream.  This file says in
terms of the JSON value alone what must stand there.  A result that is a finite number is accepted,
whatever stands beside it; the instant of the observation never matters for that.  Everything else
is a fault of the shape, except for a whole number beyond all doubles, which is a fault of its own.

## Main definitions

* `Json.Measures` — a value that is a finite number.
* `Observation.Shows` — a payload with a result at the place that is read.
* `Observation.Verdict` — the three ways in which a payload can be taken.

## Main results

* `numberOf_of_measures`, `numberOf_of_isOverlarge`, `numberOf_of_neither` — the three kinds of
  results.
* `verdict` — what becomes of a payload.
* `ofPayload_accepts_shown` — what is accepted, and what it depends on.

## References

`SPEC_FULL.md`, section 4.2, on the result of an observation.
-/

namespace StationWatch

/-- The value is a finite number, or a text that reads as one. -/
structure Json.Measures (j : Json) (x : Float) : Prop where
  /-- Truth values measure nothing. -/
  notTruth : j.isTruthValue = false
  number : j.toReal = .ok x
  finite : x.isFinite = true

namespace Observation

/-- The payload is an object whose values begin with a data stream, and the observations of that
begin with one that has a result. -/
def Shows (payload : Json) (stream observation : Json.Members) (result : Json) : Prop :=
  ∃ members streams observations, payload = .obj members ∧
    Json.lookup "value" members = some (.arr (.obj stream :: streams)) ∧
    Json.lookup "Observations" stream = some (.arr (.obj observation :: observations)) ∧
    Json.lookup "result" observation = some result

/-! ### Results -/

section

variable {result : Json}

theorem numberOf_of_isTruthValue (h : result.isTruthValue = true) :
    numberOf result = .error (.shape (.notNumeric result)) := by
  cases result with
  | bool b => rfl
  | _ => simp [Json.isTruthValue] at h

/-- Any other value is converted first, and then must be finite. -/
theorem numberOf_of_not_isTruthValue (h : result.isTruthValue = false) :
    numberOf result =
      match result.toReal with
      | .error .tooLarge => .error .tooLarge
      | .error _ => .error (.shape (.notNumeric result))
      | .ok x => if x.isFinite then .ok x else .error (.shape (.notNumeric result)) := by
  cases result with
  | bool b => simp [Json.isTruthValue] at h
  | _ => rfl

theorem numberOf_of_measures {x : Float} (h : result.Measures x) : numberOf result = .ok x := by
  rw [numberOf_of_not_isTruthValue h.notTruth, h.number]
  exact if_pos h.finite

theorem numberOf_of_isOverlarge (h : result.isOverlarge = true) :
    numberOf result = .error .tooLarge := by
  have htruth : result.isTruthValue = false := by
    cases result with
    | int n => rfl
    | _ => simp [Json.isOverlarge] at h
  rw [numberOf_of_not_isTruthValue htruth, (Json.toReal_eq_tooLarge_iff result).2 h]

/-- What is neither a finite number nor a whole number beyond all doubles has the wrong shape. -/
theorem numberOf_of_neither (hmeasures : ∀ x, ¬ result.Measures x)
    (hlarge : result.isOverlarge = false) :
    numberOf result = .error (.shape (.notNumeric result)) := by
  cases htruth : result.isTruthValue with
  | true => exact numberOf_of_isTruthValue htruth
  | false =>
    rw [numberOf_of_not_isTruthValue htruth]
    cases hreal : result.toReal with
    | error fault =>
      cases fault with
      | tooLarge =>
        have hover := (Json.toReal_eq_tooLarge_iff result).1 hreal
        exact absurd (hlarge.symm.trans hover) Bool.false_ne_true
      | notNumeric text => rfl
      | wrongKind kind => rfl
    | ok x =>
      have hinfinite : ¬ x.isFinite = true := fun hfinite => hmeasures x ⟨htruth, hreal, hfinite⟩
      exact if_neg hinfinite

end

/-! ### Payloads -/

section

variable {payload : Json} {stream observation members : Json.Members} {result item : Json}

theorem first_eq_ok_iff {name : String} :
    first name (.obj members) = .ok item ↔
      ∃ rest, Json.lookup name members = some (.arr (item :: rest)) := by
  unfold first Json.field
  cases hvalue : Json.lookup name members with
  | none => simp [hvalue]
  | some value =>
    cases value with
    | arr items => cases items <;> simp [hvalue]
    | _ => simp [hvalue]

theorem parts_of_shows (h : Shows payload stream observation result) :
    parts payload = .ok (.obj stream, .obj observation, result) := by
  obtain ⟨members, streams, observations, rfl, hvalues, hobservations, hresult⟩ := h
  have hstream : first "value" (.obj members) = .ok (.obj stream) := first_eq_ok_iff.2 ⟨_, hvalues⟩
  have hobservation : first "Observations" (.obj stream) = .ok (.obj observation) :=
    first_eq_ok_iff.2 ⟨_, hobservations⟩
  simp only [parts, hstream, hobservation, hresult]

theorem exists_shows_of_parts {parted : Json × Json × Json} (h : parts payload = .ok parted) :
    ∃ stream observation result, Shows payload stream observation result := by
  unfold parts at h
  split at h
  · rename_i members
    split at h
    · cases h
    · rename_i stream hstream
      split at h
      · cases h
      · rename_i observation hobservation
        split at h
        · rename_i result hresult
          obtain ⟨streams, hvalues⟩ := first_eq_ok_iff.1 hstream
          obtain ⟨observations, hobservations⟩ := first_eq_ok_iff.1 hobservation
          exact ⟨stream, observation, result, members, streams, observations, rfl, hvalues,
            hobservations, hresult⟩
        · cases h
      · cases h
    · cases h
  · cases h

/-- A payload shows one result at most. -/
theorem Shows.unique (h : Shows payload stream observation result)
    {stream' observation' : Json.Members} {result' : Json}
    (h' : Shows payload stream' observation' result') :
    stream' = stream ∧ observation' = observation ∧ result' = result := by
  have hparts := (parts_of_shows h).symm.trans (parts_of_shows h')
  simp only [Except.ok.injEq, Prod.mk.injEq, Json.obj.injEq] at hparts
  exact ⟨hparts.1.symm, hparts.2.1.symm, hparts.2.2.symm⟩

/-- The reading of a value at the place that is read. -/
def reading (measurement : RawText) (stream observation : Json.Members) (value : Float) :
    Observation :=
  { measurement, value
    time := timeOf ((Json.obj observation).field "phenomenonTime")
    stream := (Json.obj stream).field "name" }

theorem ofPayload_of_shows (h : Shows payload stream observation result) (measurement : RawText) :
    ofPayload payload measurement =
      (numberOf result).map (reading measurement stream observation) := by
  rw [ofPayload, parts_of_shows h]
  rfl

theorem ofPayload_of_not_shows
    (h : ∀ stream observation result, ¬ Shows payload stream observation result)
    (measurement : RawText) : ∃ fault, ofPayload payload measurement = .error (.shape fault) := by
  cases hparts : parts payload with
  | ok parted =>
    obtain ⟨stream, observation, result, hshows⟩ := exists_shows_of_parts hparts
    exact absurd hshows (h stream observation result)
  | error fault => exact ⟨fault, by rw [ofPayload, hparts]⟩

end

/-! ### What is accepted -/

/-- What becomes of a payload: it is read, its result is too large, or it has the wrong shape. -/
inductive Verdict (payload : Json) (measurement : RawText) : Prop
  | read {stream observation : Json.Members} {result : Json} {x : Float}
      (hshows : Shows payload stream observation result) (hmeasures : result.Measures x)
      (h : ofPayload payload measurement = .ok (reading measurement stream observation x))
  | tooLarge {stream observation : Json.Members} {result : Json}
      (hshows : Shows payload stream observation result) (hlarge : result.isOverlarge = true)
      (h : ofPayload payload measurement = .error .tooLarge)
  | misshapen {fault : ShapeFault}
      (hneither : ∀ stream observation result, Shows payload stream observation result →
        (∀ x, ¬ result.Measures x) ∧ result.isOverlarge = false)
      (h : ofPayload payload measurement = .error (.shape fault))

theorem verdict (payload : Json) (measurement : RawText) : Verdict payload measurement := by
  by_cases hshown : ∃ stream observation result, Shows payload stream observation result
  · obtain ⟨stream, observation, result, hshows⟩ := hshown
    have hread := ofPayload_of_shows hshows measurement
    by_cases hmeasured : ∃ x, result.Measures x
    · obtain ⟨x, hmeasures⟩ := hmeasured
      rw [numberOf_of_measures hmeasures] at hread
      exact .read hshows hmeasures hread
    · cases hlarge : result.isOverlarge with
      | true =>
        rw [numberOf_of_isOverlarge hlarge] at hread
        exact .tooLarge hshows hlarge hread
      | false =>
        have hnone : ∀ x, ¬ result.Measures x := not_exists.1 hmeasured
        rw [numberOf_of_neither hnone hlarge] at hread
        refine .misshapen (fun stream' observation' result' hshows' => ?_) hread
        obtain ⟨-, -, rfl⟩ := hshows.unique hshows'
        exact ⟨hnone, hlarge⟩
  · have hnot : ∀ stream observation result, ¬ Shows payload stream observation result := by
      intro stream observation result hshows
      exact hshown ⟨stream, observation, result, hshows⟩
    obtain ⟨fault, hfault⟩ := ofPayload_of_not_shows hnot measurement
    refine .misshapen (fun stream observation result hshows => ?_) hfault
    exact absurd hshows (hnot stream observation result)

variable {payload : Json} {measurement : RawText}

theorem ofPayload_eq_ok_iff {o : Observation} :
    ofPayload payload measurement = .ok o ↔
      ∃ stream observation result, Shows payload stream observation result ∧
        result.Measures o.value ∧ o = reading measurement stream observation o.value := by
  constructor
  · intro hread
    cases verdict payload measurement with
    | read hshows hmeasures h =>
      cases h.symm.trans hread
      exact ⟨_, _, _, hshows, hmeasures, rfl⟩
    | tooLarge hshows hlarge h => cases h.symm.trans hread
    | misshapen hneither h => cases h.symm.trans hread
  · rintro ⟨stream, observation, result, hshows, hmeasures, ho⟩
    rw [ofPayload_of_shows hshows, numberOf_of_measures hmeasures, ho]
    rfl

theorem ofPayload_eq_tooLarge_iff :
    ofPayload payload measurement = .error .tooLarge ↔
      ∃ stream observation result, Shows payload stream observation result ∧
        result.isOverlarge = true := by
  constructor
  · intro hlost
    cases verdict payload measurement with
    | read hshows hmeasures h => cases h.symm.trans hlost
    | tooLarge hshows hlarge h => exact ⟨_, _, _, hshows, hlarge⟩
    | misshapen hneither h => cases h.symm.trans hlost
  · rintro ⟨stream, observation, result, hshows, hlarge⟩
    rw [ofPayload_of_shows hshows, numberOf_of_isOverlarge hlarge]
    rfl

/-- The shape is at fault wherever neither a finite number nor a number too large is shown. -/
theorem ofPayload_eq_shape_iff :
    (∃ fault, ofPayload payload measurement = .error (.shape fault)) ↔
      ∀ stream observation result, Shows payload stream observation result →
        (∀ x, ¬ result.Measures x) ∧ result.isOverlarge = false := by
  constructor
  · rintro ⟨fault, hfault⟩
    cases verdict payload measurement with
    | read hshows hmeasures h => cases h.symm.trans hfault
    | tooLarge hshows hlarge h => cases h.symm.trans hfault
    | misshapen hneither h => exact hneither
  · intro hneither
    cases verdict payload measurement with
    | read hshows hmeasures h => exact absurd hmeasures ((hneither _ _ _ hshows).1 _)
    | tooLarge hshows hlarge h =>
      exact absurd ((hneither _ _ _ hshows).2.symm.trans hlarge) Bool.false_ne_true
    | misshapen hneither h => exact ⟨_, h⟩

/-- Payloads that show the same result are accepted together. -/
theorem exists_ofPayload_iff_of_shows {payload' : Json}
    {stream stream' observation observation' : Json.Members} {result : Json}
    (h : Shows payload stream observation result)
    (h' : Shows payload' stream' observation' result) :
    (∃ o, ofPayload payload measurement = .ok o) ↔
      ∃ o, ofPayload payload' measurement = .ok o := by
  rw [ofPayload_of_shows h, ofPayload_of_shows h']
  cases numberOf result with
  | ok x => exact iff_of_true ⟨_, rfl⟩ ⟨_, rfl⟩
  | error fault => exact iff_of_false (by rintro ⟨o, ⟨⟩⟩) (by rintro ⟨o, ⟨⟩⟩)

/-- **What a response must show to be read.**  A payload is accepted exactly if the first
observation of its first data stream has a result that is a finite number, and then its reading is
that number, with the name of the data stream and the instant of the observation.  A whole number
beyond all doubles at this place is a fault of its own; everything else is a fault of the shape.
Apart from the result nothing decides whether a payload is accepted, and apart from result, name and
instant nothing decides what is read. -/
theorem ofPayload_accepts_shown (payload : Json) (measurement : RawText) :
    (∀ o, ofPayload payload measurement = .ok o ↔
      ∃ stream observation result, Shows payload stream observation result ∧
        result.Measures o.value ∧ o = reading measurement stream observation o.value) ∧
    (ofPayload payload measurement = .error .tooLarge ↔
      ∃ stream observation result, Shows payload stream observation result ∧
        result.isOverlarge = true) ∧
    ((∃ fault, ofPayload payload measurement = .error (.shape fault)) ↔
      ∀ stream observation result, Shows payload stream observation result →
        (∀ x, ¬ result.Measures x) ∧ result.isOverlarge = false) ∧
    ∀ stream observation result payload' stream' observation',
      Shows payload stream observation result → Shows payload' stream' observation' result →
      ((∃ o, ofPayload payload measurement = .ok o) ↔
        ∃ o, ofPayload payload' measurement = .ok o) ∧
      ((Json.obj stream).field "name" = (Json.obj stream').field "name" →
        (Json.obj observation).field "phenomenonTime" =
          (Json.obj observation').field "phenomenonTime" →
        ofPayload payload measurement = ofPayload payload' measurement) := by
  refine ⟨fun o => ofPayload_eq_ok_iff, ofPayload_eq_tooLarge_iff, ofPayload_eq_shape_iff, ?_⟩
  intro stream observation result payload' stream' observation' hshows hshows'
  refine ⟨exists_ofPayload_iff_of_shows hshows hshows', fun hname htime => ?_⟩
  have hreading : reading measurement stream observation =
      reading measurement stream' observation' := by
    unfold reading
    rw [hname, htime]
  rw [ofPayload_of_shows hshows, ofPayload_of_shows hshows', hreading]

/-- A payload with one observation. -/
def showing (observation : Json.Members) : Json :=
  .obj [("value", .arr [.obj [("Observations", .arr [.obj observation])]])]

theorem shows_showing {observation : Json.Members} {result : Json}
    (h : Json.lookup "result" observation = some result) :
    Shows (showing observation) [("Observations", .arr [.obj observation])] observation result :=
  ⟨_, [], [], rfl, rfl, rfl, h⟩

/-- A result is accepted without an instant, and so it is beside an instant that is none. -/
theorem showing_accepted_beside_instant :
    (∃ o, ofPayload (showing [("result", .int 21)]) "TEMPERATURE" = .ok o ∧ o.value = 21.0) ∧
      ∃ o, ofPayload (showing [("result", .int 21), ("phenomenonTime", .arr [])]) "TEMPERATURE" =
        .ok o := by
  have hplain : Shows (showing [("result", .int 21)]) _ _ (.int 21) := shows_showing rfl
  have htimed : Shows (showing [("result", .int 21), ("phenomenonTime", .arr [])]) _ _ (.int 21) :=
    shows_showing rfl
  have hmeasures : (Json.int 21).Measures 21.0 := ⟨rfl, rfl, by decide +kernel⟩
  obtain ⟨haccepts, -, -, hsame⟩ :=
    ofPayload_accepts_shown (showing [("result", .int 21)]) "TEMPERATURE"
  have hread := (haccepts (reading "TEMPERATURE" _ _ 21.0)).2 ⟨_, _, _, hplain, hmeasures, rfl⟩
  exact ⟨⟨_, hread, rfl⟩, (hsame _ _ _ _ _ _ hplain htimed).1.1 ⟨_, hread⟩⟩

/-- A result of four hundred digits is no finite number, but the shape is not at fault either. -/
theorem overlarge_result_has_no_shape_fault :
    (¬ ∃ o, ofPayload (showing [("result", Station.fourHundredNines)]) "" = .ok o) ∧
      ¬ ∃ fault, ofPayload (showing [("result", Station.fourHundredNines)]) "" =
        .error (.shape fault) := by
  have hlarge : Station.fourHundredNines.isOverlarge = true := by decide +kernel
  have hlost : ofPayload (showing [("result", Station.fourHundredNines)]) "" = .error .tooLarge :=
    ofPayload_eq_tooLarge_iff.2 ⟨_, _, _, shows_showing rfl, hlarge⟩
  rw [hlost]
  exact ⟨by rintro ⟨o, ⟨⟩⟩, by rintro ⟨fault, ⟨⟩⟩⟩

end Observation

end StationWatch
